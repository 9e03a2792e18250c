import Romanization.Proofs.Scheme.Brahmic.Rules
import Romanization.Proofs.Text.Buffer

namespace Romanization.Scheme.Brahmic.Block

variable {b : Block} {c : CodePoint} {f p plain rest text : Text}

/-- The sound of a letter and of a nukta that changes it, and what is left of the text. -/
def consonantAt (b : Block) (c : CodePoint) (plain : Text) : Text → Text × Text
  | [] => (plain, [])
  | d :: rest =>
    match if d = b.nukta then b.nuktaSound? c else none with
    | some sound => (sound, rest)
    | none => (plain, d :: rest)

def vowelAt (b : Block) : Text → Text × Text
  | [] => ("a".codePoints, [])
  | d :: rest =>
    match b.vowel? d with
    | some vowel => (vowel, rest)
    | none => ("a".codePoints, d :: rest)

theorem consonantAt_marked {sound : Text} (h : b.nuktaSound? c = some sound) (plain rest : Text) :
    b.consonantAt c plain (b.nukta :: rest) = (sound, rest) := by
  simp [consonantAt, h]

theorem consonantAt_plain (h : ∀ more, rest = b.nukta :: more → b.nuktaSound? c = none) :
    b.consonantAt c plain rest = (plain, rest) := by
  cases rest with
  | nil => rfl
  | cons d rest =>
    by_cases hd : d = b.nukta
    · simp [consonantAt, h rest (by rw [hd])]
    · simp [consonantAt, hd]

theorem consonantAt_cases (b : Block) (c : CodePoint) (rest : Text) :
    (∃ more sound, rest = b.nukta :: more ∧ b.nuktaSound? c = some sound) ∨
      ∀ more, rest = b.nukta :: more → b.nuktaSound? c = none := by
  by_cases h : ∃ more, rest = b.nukta :: more
  · obtain ⟨more, rfl⟩ := h
    cases hs : b.nuktaSound? c with
    | some sound => exact .inl ⟨more, sound, rfl, rfl⟩
    | none => exact .inr fun _ _ => rfl
  · exact .inr fun more hr => absurd ⟨more, hr⟩ h

theorem length_consonantAt (b : Block) (c : CodePoint) (plain rest : Text) :
    (b.consonantAt c plain rest).2.length ≤ rest.length := by
  rcases consonantAt_cases b c rest with ⟨more, sound, rfl, h⟩ | h
  · simp [consonantAt_marked h]
  · simp [consonantAt_plain h]

theorem length_vowelAt (b : Block) (rest : Text) : (b.vowelAt rest).2.length ≤ rest.length := by
  cases rest with
  | nil => simp [vowelAt]
  | cons d rest => cases h : b.vowel? d <;> simp [vowelAt, h]

def read (b : Block) : Text → Text
  | [] => []
  | c :: rest =>
    match b.letter? c with
    | none => (b.other? c).getD [c] ++ b.read rest
    | some plain =>
      let consonant := b.consonantAt c plain rest
      let vowel := b.vowelAt consonant.2
      consonant.1 ++ vowel.1 ++ b.read vowel.2
termination_by text => text.length
decreasing_by
  · simp
  · have := length_consonantAt b c plain rest
    have := length_vowelAt b (b.consonantAt c plain rest).2
    simp only [List.length_cons]
    omega

/-- No longer spelling of a consonant stands at a letter than the one that is read. -/
theorem consonantAt_spec (hb : b ∈ blocks) (hc : b.letter? c = some plain) (rest : Text) :
    ∃ l, (l, (b.consonantAt c plain rest).1) ∈ b.consonantSounds ∧
      c :: rest = l ++ (b.consonantAt c plain rest).2 ∧
      ∀ m s e v, (m, s) ∈ b.consonantSounds → (e, v) ∈ b.endings → m ++ e <+: c :: rest →
        m = l ∨ (m ++ e).length ≤ l.length := by
  rcases consonantAt_cases b c rest with ⟨more, sound, rfl, h⟩ | h
  · rw [consonantAt_marked h]
    refine ⟨[c, b.nukta], (mem_consonantSounds_iff hb).2 ⟨c, .inr ⟨rfl, h⟩⟩, rfl, ?_⟩
    intro m s e v hm he hp
    obtain ⟨d, ⟨rfl, -⟩ | ⟨rfl, -⟩⟩ := (mem_consonantSounds_iff hb).1 hm
    · refine .inr ?_
      rcases mem_endings_iff.1 he with ⟨rfl, -⟩ | ⟨x, rfl, -⟩ <;> simp
    · obtain ⟨rfl, -⟩ := List.cons_prefix_cons.1 hp
      exact .inl rfl
  · rw [consonantAt_plain h]
    refine ⟨[c], (mem_consonantSounds_iff hb).2 ⟨c, .inl ⟨rfl, hc⟩⟩, rfl, ?_⟩
    intro m s e v hm he hp
    obtain ⟨d, ⟨rfl, -⟩ | ⟨rfl, hd⟩⟩ := (mem_consonantSounds_iff hb).1 hm
    · obtain ⟨rfl, -⟩ := List.cons_prefix_cons.1 hp
      exact .inl rfl
    · obtain ⟨rfl, more, rfl⟩ := List.cons_prefix_cons.1 hp
      rw [h (e ++ more) rfl] at hd
      cases hd

theorem vowelAt_spec (b : Block) (rest : Text) :
    ∃ e, (e, (b.vowelAt rest).1) ∈ b.endings ∧ rest = e ++ (b.vowelAt rest).2 ∧
      ∀ f v, (f, v) ∈ b.endings → f <+: rest → f.length ≤ e.length := by
  have hnil : ([], "a".codePoints) ∈ b.endings := List.mem_cons_self
  cases rest with
  | nil => exact ⟨[], hnil, rfl, fun f v _ hp => hp.length_le⟩
  | cons d rest =>
    cases hd : b.vowel? d with
    | some vowel =>
      simp only [vowelAt, hd]
      refine ⟨[d], mem_endings_iff.2 (.inr ⟨d, rfl, hd⟩), rfl, fun f v hf _ => ?_⟩
      rcases mem_endings_iff.1 hf with ⟨rfl, -⟩ | ⟨c, rfl, -⟩ <;> simp
    | none =>
      simp only [vowelAt, hd]
      refine ⟨[], hnil, rfl, fun f v hf hp => ?_⟩
      rcases mem_endings_iff.1 hf with ⟨rfl, -⟩ | ⟨c, rfl, hc⟩
      · exact Nat.le_refl _
      · obtain ⟨rfl, -⟩ := List.cons_prefix_cons.1 hp
        rw [hd] at hc
        cases hc

theorem hit?_letter (hb : b ∈ blocks) (hc : b.letter? c = some plain) (rest : Text) :
    ∃ p, c :: rest = p ++ (b.vowelAt (b.consonantAt c plain rest).2).2 ∧
      (b.table hb).hit? (c :: rest) = some ⟨p.length,
        (b.consonantAt c plain rest).1 ++ (b.vowelAt (b.consonantAt c plain rest).2).1⟩ := by
  obtain ⟨l, hl, hrest, hlong⟩ := consonantAt_spec hb hc rest
  obtain ⟨e, he, hmore, helong⟩ := vowelAt_spec b (b.consonantAt c plain rest).2
  have hsplit : c :: rest = (l ++ e) ++ (b.vowelAt (b.consonantAt c plain rest).2).2 := by
    rw [List.append_assoc, ← hmore, ← hrest]
  have hrule := (mem_rules_iff hb).2 (.inl ⟨l, _, e, _, hl, he, rfl, rfl⟩)
  refine ⟨l ++ e, hsplit, RuleTable.hit?_eq_some_iff.2 ⟨l ++ e, ⟨?_, ⟨_, hsplit.symm⟩, ?_⟩, ?_, rfl⟩⟩
  · exact Dictionary.mem_keys.2 ⟨_, hrule⟩
  · intro q hq hs
    obtain ⟨f, hf⟩ := Dictionary.mem_keys.1 hq
    rcases (mem_rules_iff hb).1 hf with ⟨m, s, x, v, hm, hx, rfl, -⟩ | ⟨d, rfl, -⟩
    · rcases hlong m s x v hm hx hs with rfl | hle
      · rw [hrest] at hs
        have := helong x v hx ((List.prefix_append_right_inj m).1 hs)
        simp only [List.length_append]
        omega
      · exact Nat.le_trans hle (by simp)
    · obtain ⟨x, -, rfl | rfl⟩ := isSpelling_of_mem_keys hb (Dictionary.mem_keys.2 ⟨_, hl⟩) <;> simp
  · exact RuleTable.fragment?_eq_some_iff.2 hrule

theorem rule_of_no_letter (hb : b ∈ blocks) (hc : b.letter? c = none) (hr : (p, f) ∈ b.rules)
    (hs : p <+: c :: rest) : p = [c] ∧ b.other? c = some f := by
  rcases (mem_rules_iff hb).1 hr with ⟨l, s, e, v, hl, -, rfl, -⟩ | ⟨d, rfl, hd⟩
  · obtain ⟨d, hd, rfl | rfl⟩ := isSpelling_of_mem_keys hb (Dictionary.mem_keys.2 ⟨s, hl⟩) <;>
    · obtain ⟨rfl, -⟩ := List.cons_prefix_cons.1 hs
      simp [hc] at hd
  · obtain ⟨rfl, -⟩ := List.cons_prefix_cons.1 hs
    exact ⟨rfl, hd⟩

theorem hit?_other (hb : b ∈ blocks) (hc : b.letter? c = none) (ho : b.other? c = some f)
    (rest : Text) : (b.table hb).hit? (c :: rest) = some ⟨1, f⟩ := by
  have hr : ([c], f) ∈ b.rules := (mem_rules_iff hb).2 (.inr ⟨c, rfl, ho⟩)
  refine RuleTable.hit?_eq_some_iff.2 ⟨[c], ⟨?_, ⟨rest, rfl⟩, ?_⟩, ?_, rfl⟩
  · exact Dictionary.mem_keys.2 ⟨f, hr⟩
  · intro q hq hs
    obtain ⟨g, hg⟩ := Dictionary.mem_keys.1 hq
    exact Nat.le_of_eq (congrArg List.length (rule_of_no_letter hb hc hg hs).1)
  · exact RuleTable.fragment?_eq_some_iff.2 hr

theorem hit?_unknown (hb : b ∈ blocks) (hc : b.letter? c = none) (ho : b.other? c = none)
    (rest : Text) : (b.table hb).hit? (c :: rest) = none := by
  refine RuleTable.hit?_eq_none_iff.2 fun p hp hs => ?_
  obtain ⟨f, hf⟩ := Dictionary.mem_keys.1 hp
  rw [(rule_of_no_letter hb hc hf hs).2] at ho
  cases ho

theorem read_of_hit (hb : b ∈ blocks) {hit : Hit} (h : (b.table hb).hit? text = some hit) :
    b.read text = hit.fragment ++ b.read (text.drop hit.length) := by
  cases text with
  | nil => exact absurd rfl ((table_proper hb).hit_ne_nil h)
  | cons c rest =>
    cases hc : b.letter? c with
    | some plain =>
      obtain ⟨p, hp, hh⟩ := hit?_letter hb hc rest
      obtain rfl := Option.some.inj (h.symm.trans hh)
      rw [read, hp, List.drop_left]
      simp [hc]
    | none =>
      cases ho : b.other? c with
      | some f =>
        obtain rfl := Option.some.inj (h.symm.trans (hit?_other hb hc ho rest))
        simp [read, hc, ho]
      | none =>
        rw [hit?_unknown hb hc ho rest] at h
        cases h

theorem read_of_no_hit (hb : b ∈ blocks) (h : (b.table hb).hit? (c :: rest) = none) :
    b.read (c :: rest) = c :: b.read rest := by
  cases hc : b.letter? c with
  | some plain =>
    obtain ⟨p, -, hh⟩ := hit?_letter hb hc rest
    rw [h] at hh
    cases hh
  | none =>
    cases ho : b.other? c with
    | some f =>
      rw [hit?_other hb hc ho rest] at h
      cases h
    | none => simp [read, hc, ho]

theorem outputs_eq_read (hb : b ∈ blocks) (offset : Nat) (text : Text) :
    ((b.table hb).clustersFrom offset text).flatMap Cluster.output = b.read text := by
  induction text using (table_proper hb).induction generalizing offset with
  | nil => simp [read]
  | hit text hit h ih =>
    rw [(table_proper hb).clustersFrom_of_hit h, List.flatMap_cons, ih, read_of_hit hb h]
  | pass c text h ih =>
    rw [(table_proper hb).clustersFrom_of_no_hit h, List.flatMap_cons, ih, read_of_no_hit hb h]
    rfl

/-- The longest matches of the generated rules spell what the machine reads. -/
theorem joined_clusters_eq_read (hb : b ∈ blocks) :
    ∃ t, (ofBlock b).table = .ok t ∧
      ∀ text, (Romanizer.joined t text.length (t.clusters text)).text = b.read text := by
  refine ⟨b.table hb, ofBlock_table hb, fun text => ?_⟩
  rw [Romanizer.text_joined]
  exact outputs_eq_read hb 0 text

theorem joined_clusters_eq_read_gurmukhi :
    gurmukhi ∈ blocks ∧ ∃ t, (ofBlock gurmukhi).table = .ok t ∧
      (Romanizer.joined t 8
        (t.clusters [0xA38, 0xA3C, 0xA39, 0xA3F, 0xA30, 0xA15, 0xA3C, 0xA4D])).text =
          "shahiraq".codePoints := by
  have hb : gurmukhi ∈ blocks := by simp [blocks]
  obtain ⟨t, ht, h⟩ := joined_clusters_eq_read hb
  exact ⟨hb, t, ht, (h [0xA38, 0xA3C, 0xA39, 0xA3F, 0xA30, 0xA15, 0xA3C, 0xA4D]).trans (by decide +kernel)⟩

end Romanization.Scheme.Brahmic.Block
