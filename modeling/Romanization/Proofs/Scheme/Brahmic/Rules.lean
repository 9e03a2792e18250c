import Romanization.Proofs.RuleTable.Built
import Romanization.Proofs.Scheme.Brahmic.Consonants

namespace Romanization.Scheme.Brahmic.Block

variable {b : Block} {c : CodePoint} {e f l m p s v : Text}

def endings (b : Block) : Dictionary Text :=
  ([], "a".codePoints) :: ([b.virama], []) :: b.signRules

def spelledRules (b : Block) : Dictionary Text :=
  b.consonantSounds.flatMap fun r => b.endings.map fun e => (r.1 ++ e.1, r.2 ++ e.2)

theorem consonantRules_eq (b : Block) (letter sound : Text) :
    b.consonantRules letter sound = b.endings.map fun e => (letter ++ e.1, sound ++ e.2) := by
  simp [consonantRules, endings]

theorem rules_perm (b : Block) : b.rules.Perm (b.spelledRules ++ b.letters b.otherSounds) := by
  have hs : b.spelledRules =
      b.consonantSounds.flatMap fun r => b.consonantRules r.1 r.2 := by
    simp only [spelledRules, consonantRules_eq]
  have ho : b.letters b.otherSounds = b.letters vowels ++ b.signRules ++ b.letters signs ++
      b.letters b.extraSigns ++ b.letters digits := by
    simp only [otherSounds, letters_append]
    rfl
  rw [hs, ho, rules]
  simp only [List.append_assoc]
  exact List.perm_append_comm_assoc _ _ _

theorem sound?_virama : b.sound? vowelSigns b.virama = none := by
  have := (List.nodup_cons.1 nodup_endingPlaces).1
  refine sound?_eq_none_iff.2 fun o ho he => ?_
  obtain rfl := Nat.add_left_cancel he
  exact this ho

theorem mem_endings_iff : (e, v) ∈ b.endings ↔
    (e = [] ∧ v = "a".codePoints) ∨ ∃ c, e = [c] ∧ b.vowel? c = some v := by
  have hs : (vowelSigns.map Prod.fst).Nodup := (List.nodup_cons.1 nodup_endingPlaces).2
  simp only [endings, List.mem_cons, Prod.mk.injEq, signRules, mem_letters_iff hs]
  refine or_congr_right ?_
  constructor
  · rintro (⟨rfl, rfl⟩ | ⟨c, rfl, h⟩)
    · exact ⟨b.virama, rfl, by simp [vowel?]⟩
    · refine ⟨c, rfl, ?_⟩
      have : c ≠ b.virama := by
        rintro rfl
        rw [sound?_virama] at h
        cases h
      rwa [vowel?, if_neg this]
  · rintro ⟨c, rfl, h⟩
    unfold vowel? at h
    split at h
    · next hc => exact .inl ⟨by rw [hc], (Option.some.inj h).symm⟩
    · exact .inr ⟨c, rfl, h⟩

theorem exists_place_of_vowel? (h : b.vowel? c = some v) :
    ∃ o ∈ viramaOffset :: vowelSigns.map Prod.fst, c = b.start + o := by
  unfold vowel? at h
  split at h
  · next hc => exact ⟨viramaOffset, List.mem_cons_self, hc⟩
  · obtain ⟨o, ho, hc⟩ := exists_place_of_sound? h
    exact ⟨o, List.mem_cons_of_mem _ ho, hc⟩

theorem letter?_of_vowel? (hb : b ∈ blocks) (h : b.vowel? c = some v) : b.letter? c = none := by
  obtain ⟨o, ho, rfl⟩ := exists_place_of_vowel? h
  exact letter?_of_mark hb (List.mem_cons_of_mem _ ho)

theorem letter?_nukta (hb : b ∈ blocks) : b.letter? b.nukta = none :=
  letter?_of_mark hb List.mem_cons_self

theorem vowel?_nukta (b : Block) : b.vowel? b.nukta = none := by
  cases h : b.vowel? b.nukta with
  | none => rfl
  | some v =>
    obtain ⟨o, ho, he⟩ := exists_place_of_vowel? h
    obtain rfl := Nat.add_left_cancel he
    exact absurd ho nuktaOffset_notMem

theorem nodup_endings (b : Block) : b.endings.keys.Nodup := by
  have hk : b.endings.keys = [] :: (viramaOffset :: vowelSigns.map Prod.fst).map fun o => [b.start + o] := by
    rw [List.map_cons, ← keys_letters]
    rfl
  rw [hk, List.nodup_cons]
  refine ⟨by simp, nodup_endingPlaces.map fun m n he => ?_⟩
  simpa using he

theorem not_nukta_ending {rest : Text} (h : (b.nukta :: rest, v) ∈ b.endings) : False := by
  rcases mem_endings_iff.1 h with ⟨he, -⟩ | ⟨c, he, hv⟩
  · cases he
  · cases he
    rw [vowel?_nukta] at hv
    cases hv

/-- The spelling of a consonant ends where its pattern goes on with no nukta. -/
theorem spelling_unique (hl : b.IsSpelling l) (hm : b.IsSpelling m) (he : (e, s) ∈ b.endings)
    (hf : (f, v) ∈ b.endings) (h : l ++ e = m ++ f) : l = m := by
  obtain ⟨c, -, rfl | rfl⟩ := hl <;> obtain ⟨d, -, rfl | rfl⟩ := hm
  · obtain ⟨rfl, -⟩ := List.cons.inj h
    rfl
  · obtain ⟨-, rfl⟩ := List.cons.inj h
    exact (not_nukta_ending he).elim
  · obtain ⟨-, rfl⟩ := List.cons.inj h
    exact (not_nukta_ending hf).elim
  · obtain ⟨rfl, -⟩ := List.cons.inj h
    rfl

theorem mem_spelledRules_iff : (p, f) ∈ b.spelledRules ↔
    ∃ l s e v, (l, s) ∈ b.consonantSounds ∧ (e, v) ∈ b.endings ∧ p = l ++ e ∧ f = s ++ v := by
  simp only [spelledRules, List.mem_flatMap, List.mem_map, Prod.exists, Prod.mk.injEq]
  constructor
  · rintro ⟨l, s, hl, e, v, he, rfl, rfl⟩
    exact ⟨l, s, e, v, hl, he, rfl, rfl⟩
  · rintro ⟨l, s, e, v, hl, he, rfl, rfl⟩
    exact ⟨l, s, hl, e, v, he, rfl, rfl⟩

theorem nodup_spelledRules (hb : b ∈ blocks) : b.spelledRules.keys.Nodup := by
  have hk : b.spelledRules.keys =
      b.consonantSounds.flatMap fun r => b.endings.keys.map (r.1 ++ ·) := by
    simp [spelledRules, Dictionary.keys, List.map_flatMap, Function.comp_def]
  rw [hk, List.nodup_flatMap]
  constructor
  · intro r _
    exact (nodup_endings b).map (List.append_right_injective r.1)
  · have hn := List.pairwise_map.1 (nodup_consonantSounds hb)
    refine hn.imp_of_mem fun {r q} hr hq hne p hp hp' => hne ?_
    obtain ⟨e, he, rfl⟩ := List.mem_map.1 hp
    obtain ⟨f, hf, h⟩ := List.mem_map.1 hp'
    obtain ⟨_, he⟩ := Dictionary.mem_keys.1 he
    obtain ⟨_, hf⟩ := Dictionary.mem_keys.1 hf
    exact spelling_unique (isSpelling_of_mem_keys hb (List.mem_map_of_mem hr))
      (isSpelling_of_mem_keys hb (List.mem_map_of_mem hq)) he hf h.symm

theorem letter?_of_spelled (hb : b ∈ blocks) (h : p ∈ b.spelledRules.keys) :
    ∃ c rest, p = c :: rest ∧ (b.letter? c).isSome := by
  obtain ⟨f, h⟩ := Dictionary.mem_keys.1 h
  obtain ⟨l, s, e, v, hl, -, rfl, -⟩ := mem_spelledRules_iff.1 h
  obtain ⟨c, hc, rfl | rfl⟩ := isSpelling_of_mem_keys hb (Dictionary.mem_keys.2 ⟨s, hl⟩)
  · exact ⟨c, e, rfl, hc⟩
  · exact ⟨c, b.nukta :: e, rfl, hc⟩

theorem nodup_rules (hb : b ∈ blocks) : (Dictionary.keys b.rules).Nodup := by
  have hp : (Dictionary.keys b.rules).Perm (Dictionary.keys (b.spelledRules ++ b.letters b.otherSounds)) :=
    (rules_perm b).map Prod.fst
  rw [hp.nodup_iff, Dictionary.keys_append, List.nodup_append']
  refine ⟨nodup_spelledRules hb, nodup_letters (nodup_otherPlaces hb), fun p hp ho => ?_⟩
  obtain ⟨c, rest, rfl, hc⟩ := letter?_of_spelled hb hp
  obtain ⟨f, hf⟩ := Option.isSome_iff_exists.1 hc
  obtain ⟨o, hplace, he⟩ := mem_keys_letters.1 ho
  obtain ⟨rfl, -⟩ := List.cons.inj he
  exact sound?_eq_none_iff.1 (other?_of_letter? hb hf) o hplace rfl

theorem mem_rules_iff (hb : b ∈ blocks) : (p, f) ∈ b.rules ↔
    (∃ l s e v, (l, s) ∈ b.consonantSounds ∧ (e, v) ∈ b.endings ∧ p = l ++ e ∧ f = s ++ v) ∨
      ∃ c, p = [c] ∧ b.other? c = some f := by
  rw [(rules_perm b).mem_iff, List.mem_append, mem_spelledRules_iff,
    mem_letters_iff (nodup_otherPlaces hb)]
  rfl

theorem nil_notMem_rules (hb : b ∈ blocks) : [] ∉ Dictionary.keys b.rules := by
  intro h
  obtain ⟨f, h⟩ := Dictionary.mem_keys.1 h
  rcases (mem_rules_iff hb).1 h with ⟨l, s, e, v, hl, -, he, -⟩ | ⟨c, hc, -⟩
  · obtain ⟨c, -, rfl | rfl⟩ := isSpelling_of_mem_keys hb (Dictionary.mem_keys.2 ⟨s, hl⟩) <;> cases he
  · cases hc

theorem contains_letter (hb : b ∈ blocks) (h : (b.letter? c).isSome) : b.script.contains c := by
  obtain ⟨o, ho, rfl⟩ := letter?_isSome_iff.1 h
  apply contains_place b hb
  rw [List.map_append]
  exact List.mem_append_left _ ho

theorem contains_other (hb : b ∈ blocks) {o : Nat} (ho : o ∈ b.otherSounds.map Prod.fst) :
    b.script.contains (b.start + o) := by
  apply contains_place b hb
  rw [List.map_append]
  exact List.mem_append_right _ ho

theorem contains_spelling (hb : b ∈ blocks) (h : b.IsSpelling l) : ∀ c ∈ l, b.script.contains c := by
  obtain ⟨d, hd, rfl | rfl⟩ := h
  · exact List.forall_mem_singleton.2 (contains_letter hb hd)
  · have hn : b.script.contains b.nukta :=
      contains_other hb (mark_mem_otherPlaces List.mem_cons_self)
    exact List.forall_mem_cons.2 ⟨contains_letter hb hd, List.forall_mem_singleton.2 hn⟩

theorem contains_ending (hb : b ∈ blocks) (h : (e, v) ∈ b.endings) :
    ∀ c ∈ e, b.script.contains c := by
  rcases mem_endings_iff.1 h with ⟨rfl, -⟩ | ⟨c, rfl, hv⟩
  · simp
  · obtain ⟨o, ho, rfl⟩ := exists_place_of_vowel? hv
    exact List.forall_mem_singleton.2
      (contains_other hb (mark_mem_otherPlaces (List.mem_cons_of_mem _ ho)))

theorem contains_of_mem_rules (hb : b ∈ blocks) (h : (p, f) ∈ b.rules) :
    ∀ c ∈ p, b.script.contains c := by
  rcases (mem_rules_iff hb).1 h with ⟨l, s, e, v, hl, he, rfl, -⟩ | ⟨c, rfl, hc⟩
  · have hs := isSpelling_of_mem_keys hb (Dictionary.mem_keys.2 ⟨s, hl⟩)
    exact List.forall_mem_append.2 ⟨contains_spelling hb hs, contains_ending hb he⟩
  · obtain ⟨o, ho, rfl⟩ := exists_place_of_sound? hc
    exact List.forall_mem_singleton.2 (contains_other hb ho)

def table (b : Block) (hb : b ∈ blocks) : RuleTable := ⟨b.script.name, b.rules, nodup_rules hb⟩

theorem ofBlock_table (hb : b ∈ blocks) : (ofBlock b).table = .ok (b.table hb) :=
  RuleTable.ofRules_eq_ok (nodup_rules hb) (nil_notMem_rules hb)

theorem table_proper (hb : b ∈ blocks) : (b.table hb).Proper := nil_notMem_rules hb

end Romanization.Scheme.Brahmic.Block
