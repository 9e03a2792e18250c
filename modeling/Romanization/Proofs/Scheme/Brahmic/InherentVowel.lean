import Romanization.Proofs.RuleTable.Cut
import Romanization.Proofs.RuleTable.Tiling
import Romanization.Proofs.Scheme.Brahmic.Reading

/-! The vowel that a consonant has of itself gives way to the virama or vowel sign after it. With a
nukta between the two this holds where letter and nukta have a sound of their own, and only there. -/

namespace Romanization.Scheme.Brahmic.Block

variable {b : Block} {c m : CodePoint} {p plain sound vowel : Text}

theorem letter?_of_mem_tail (hb : b ∈ blocks) (hp : p ∈ (b.table hb).patterns) (hc : c ∈ p.tail) :
    b.letter? c = none := by
  obtain ⟨f, hf⟩ := Dictionary.mem_keys.1 hp
  rcases (mem_rules_iff hb).1 hf with ⟨l, s, e, v, hl, he, rfl, -⟩ | ⟨d, rfl, -⟩
  · have hend : c ∈ e → b.letter? c = none := by
      intro hce
      rcases mem_endings_iff.1 he with ⟨rfl, -⟩ | ⟨x, rfl, hx⟩
      · simp at hce
      · obtain rfl := List.mem_singleton.1 hce
        exact letter?_of_vowel? hb hx
    obtain ⟨d, -, rfl | rfl⟩ := isSpelling_of_mem_keys hb (Dictionary.mem_keys.2 ⟨s, hl⟩)
    · exact hend (by simpa using hc)
    · rcases List.mem_cons.1 (show c ∈ b.nukta :: e by simpa using hc) with rfl | hc
      · exact letter?_nukta hb
      · exact hend hc
  · simp at hc

theorem parts_letter (hb : b ∈ blocks) (hc : b.letter? c = some plain) (before rest : Text) :
    (b.table hb).Parts before (c :: rest) := by
  refine RuleTable.Parts.of_notMem_tail (fun p hp hm => ?_) before rest
  rw [letter?_of_mem_tail hb hp hm] at hc
  cases hc

theorem other?_of_mark (hb : b ∈ blocks) {o : Nat} {s : String}
    (h : (o, s) ∈ vowelSigns ++ signs) : b.other? (b.start + o) = some s.codePoints := by
  have hm : ([b.start + o], s.codePoints) ∈ b.letters b.otherSounds := by
    refine List.mem_map.2 ⟨(o, s), ?_, rfl⟩
    simp only [otherSounds, List.mem_append] at h ⊢
    tauto
  obtain ⟨d, hd, ho⟩ := (mem_letters_iff (nodup_otherPlaces hb)).1 hm
  obtain ⟨rfl, -⟩ := List.cons.inj hd
  exact ho

theorem other?_nukta (hb : b ∈ blocks) : b.other? b.nukta = some [] :=
  other?_of_mark hb (o := nuktaOffset) (s := "") (by decide)

theorem other?_of_vowel? (hb : b ∈ blocks) (h : b.vowel? m = some vowel) :
    b.other? m = some vowel := by
  unfold vowel? at h
  split at h
  · next hv =>
    rw [hv, ← Option.some.inj h]
    exact other?_of_mark hb (o := viramaOffset) (s := "") (by decide)
  · have hs : (vowelSigns.map Prod.fst).Nodup := (List.nodup_cons.1 nodup_endingPlaces).2
    obtain ⟨⟨o, s⟩, hmem, he⟩ := List.mem_map.1 ((mem_letters_iff hs).2 ⟨m, rfl, h⟩)
    obtain ⟨hm, rfl⟩ := Prod.mk.inj he
    obtain ⟨rfl, -⟩ := List.cons.inj hm
    exact other?_of_mark hb (List.mem_append_left _ hmem)

theorem vowelAt_of_vowel? (h : b.vowel? m = some vowel) (rest : Text) :
    b.vowelAt (m :: rest) = (vowel, rest) := by
  simp [vowelAt, h]

theorem hit?_of_reading (hb : b ∈ blocks) (hc : b.letter? c = some plain) {n : Nat}
    {rest next left : Text} (hn : b.consonantAt c plain rest = (sound, next))
    (hv : b.vowelAt next = (vowel, left)) (hl : rest.length + 1 = n + left.length) :
    (b.table hb).hit? (c :: rest) = some ⟨n, sound ++ vowel⟩ := by
  obtain ⟨p, hp, hh⟩ := hit?_letter hb hc rest
  rw [hn, hv] at hp hh
  have hlen := congrArg List.length hp
  rw [List.length_cons, List.length_append, hl] at hlen
  rw [hh, Nat.add_right_cancel hlen]

theorem hit?_letter_vowel (hb : b ∈ blocks) (hc : b.letter? c = some plain)
    (hm : b.vowel? m = some vowel) (rest : Text) :
    (b.table hb).hit? (c :: m :: rest) = some ⟨2, plain ++ vowel⟩ := by
  apply hit?_of_reading hb hc (consonantAt_plain ?_) (vowelAt_of_vowel? hm rest)
  · exact Nat.add_comm rest.length 2
  · rintro more ⟨rfl, -⟩
    rw [vowel?_nukta] at hm
    cases hm

theorem hit?_marked_vowel (hb : b ∈ blocks) (hc : b.nuktaSound? c = some sound)
    (hm : b.vowel? m = some vowel) (rest : Text) :
    (b.table hb).hit? (c :: b.nukta :: m :: rest) = some ⟨3, sound ++ vowel⟩ := by
  obtain ⟨plain, hp⟩ := Option.isSome_iff_exists.1 (letter?_of_nuktaSound? hb hc)
  apply hit?_of_reading hb hp (consonantAt_marked hc plain _) (vowelAt_of_vowel? hm rest)
  exact Nat.add_comm rest.length 3

theorem hit?_unmarked (hb : b ∈ blocks) (hc : b.letter? c = some plain) (hn : b.nuktaSound? c = none)
    (rest : Text) :
    (b.table hb).hit? (c :: b.nukta :: rest) = some ⟨1, plain ++ "a".codePoints⟩ := by
  have hv : b.vowelAt (b.nukta :: rest) = ("a".codePoints, b.nukta :: rest) := by
    simp [vowelAt, vowel?_nukta]
  apply hit?_of_reading hb hc (consonantAt_plain fun _ _ => hn) hv
  exact Nat.add_comm _ 1

theorem clusters_unmarked (hb : b ∈ blocks) (hc : b.letter? c = some plain)
    (hn : b.nuktaSound? c = none) (hm : b.vowel? m = some vowel) (before after : Text) :
    (b.table hb).clusters (before ++ c :: b.nukta :: m :: after) =
      (b.table hb).clusters before ++
        ⟨before.length, 1, plain ++ "a".codePoints, true⟩ :: ⟨before.length + 1, 1, [], true⟩ ::
          ⟨before.length + 2, 1, vowel, true⟩ :: (b.table hb).clustersFrom (before.length + 3) after := by
  have ht := table_proper hb
  rw [ht.clusters_append_hit (parts_letter hb hc _ _) (hit?_unmarked hb hc hn _)]
  simp only [List.drop_succ_cons, List.drop_zero]
  rw [ht.clustersFrom_of_hit (hit?_other hb (letter?_nukta hb) (other?_nukta hb) _)]
  simp only [List.drop_succ_cons, List.drop_zero]
  rw [ht.clustersFrom_of_hit (hit?_other hb (letter?_of_vowel? hb hm) (other?_of_vowel? hb hm) _)]
  rfl

theorem not_fused_unmarked (hb : b ∈ blocks) (hc : b.letter? c = some plain)
    (hn : b.nuktaSound? c = none) (before rest output : Text) :
    ⟨before.length, 3, output, true⟩ ∉ (b.table hb).clusters (before ++ c :: b.nukta :: rest) := by
  intro h
  have hr := (table_proper hb).reads_of_mem h
  have he := hr.eq_of_hit (by rw [List.drop_left]; exact hit?_unmarked hb hc hn rest)
  simp at he

/-- A letter, at most one nukta and a virama or vowel sign make one match, with the sound of a consonant
and the vowel of the mark, unless the nukta gives the letter no sound. -/
theorem fused_iff_nukta_sounds (hb : b ∈ blocks) :
    ∃ t, (ofBlock b).table = .ok t ∧
      ∀ before after nuktas c m plain vowel, b.letter? c = some plain → b.vowel? m = some vowel →
        nuktas = [] ∨ nuktas = [b.nukta] →
        ((∃ l sound, (l, sound) ∈ b.consonantSounds ∧
            ⟨before.length, nuktas.length + 2, sound ++ vowel, true⟩ ∈
              t.clusters (before ++ c :: (nuktas ++ m :: after))) ↔
          (nuktas = [b.nukta] → (b.nuktaSound? c).isSome)) ∧
        (nuktas = [b.nukta] → b.nuktaSound? c = none →
          [⟨before.length, 1, plain ++ "a".codePoints, true⟩, ⟨before.length + 1, 1, [], true⟩,
            ⟨before.length + 2, 1, vowel, true⟩] <:+:
              t.clusters (before ++ c :: (nuktas ++ m :: after))) := by
  refine ⟨b.table hb, ofBlock_table hb, ?_⟩
  intro before after nuktas c m plain vowel hc hm hnuktas
  have ht := table_proper hb
  have hparts := parts_letter hb hc before
  cases hnuktas with
  | inl h =>
    subst h
    have hne : [] ≠ [b.nukta] := (List.cons_ne_nil b.nukta []).symm
    refine ⟨iff_of_true ⟨[c], plain, ?_, ?_⟩ fun h => absurd h hne, fun h => absurd h hne⟩
    · exact (mem_consonantSounds_iff hb).2 ⟨c, .inl ⟨rfl, hc⟩⟩
    · rw [List.nil_append, ht.clusters_append_hit (hparts _) (hit?_letter_vowel hb hc hm after)]
      simp
  | inr h =>
    subst h
    cases hs : b.nuktaSound? c with
    | some sound =>
      refine ⟨iff_of_true ⟨[c, b.nukta], sound, ?_, ?_⟩ fun _ => rfl,
        fun _ h => absurd h (Option.some_ne_none sound)⟩
      · exact (mem_consonantSounds_iff hb).2 ⟨c, .inr ⟨rfl, hs⟩⟩
      · rw [List.singleton_append,
          ht.clusters_append_hit (hparts _) (hit?_marked_vowel hb hs hm after)]
        simp
    | none =>
      refine ⟨iff_of_false ?_ (by simp), fun _ _ => ?_⟩
      · rintro ⟨l, sound, -, h⟩
        exact not_fused_unmarked hb hc hs before (m :: after) _ h
      · rw [List.singleton_append, clusters_unmarked hb hc hs hm]
        exact ⟨(b.table hb).clusters before, (b.table hb).clustersFrom (before.length + 3) after, by simp⟩

theorem fused_iff_nukta_sounds_bengali :
    bengali ∈ blocks ∧ bengali.letter? 0x9A1 = some "d".codePoints ∧
      bengali.vowel? 0x9BF = some "i".codePoints ∧
      ∃ t l sound, (ofBlock bengali).table = .ok t ∧ (l, sound) ∈ bengali.consonantSounds ∧
        ⟨1, 3, sound ++ "i".codePoints, true⟩ ∈ t.clusters [0x995, 0x9A1, 0x9BC, 0x9BF] := by
  have hb : bengali ∈ blocks := by simp [blocks]
  have hc : bengali.letter? 0x9A1 = some "d".codePoints := by decide
  have hm : bengali.vowel? 0x9BF = some "i".codePoints := by decide
  obtain ⟨t, ht, h⟩ := fused_iff_nukta_sounds hb
  obtain ⟨l, sound, hl, hmem⟩ :=
    (h [0x995] [] [bengali.nukta] _ _ _ _ hc hm (.inr rfl)).1.2 fun _ => by decide
  exact ⟨hb, hc, hm, t, l, sound, ht, hl, hmem⟩

theorem clusters_ma_nukta_i :
    devanagari.letter? 0x92E = some "m".codePoints ∧ devanagari.vowel? 0x93F = some "i".codePoints ∧
      ∃ t, (ofBlock devanagari).table = .ok t ∧
        t.clusters [0x92E, devanagari.nukta, 0x93F] =
          [⟨0, 1, "ma".codePoints, true⟩, ⟨1, 1, [], true⟩, ⟨2, 1, "i".codePoints, true⟩] ∧
        ∀ output, ⟨0, 3, output, true⟩ ∉ t.clusters [0x92E, devanagari.nukta, 0x93F] := by
  have hb : devanagari ∈ blocks := by simp [blocks]
  have hc : devanagari.letter? 0x92E = some "m".codePoints := by decide
  have hm : devanagari.vowel? 0x93F = some "i".codePoints := by decide
  have hn : devanagari.nuktaSound? 0x92E = none := by decide +kernel
  have hall := clusters_unmarked hb hc hn hm [] []
  have ha : "m".codePoints ++ "a".codePoints = "ma".codePoints := by decide
  rw [ha] at hall
  exact ⟨hc, hm, _, ofBlock_table hb, hall, fun output => not_fused_unmarked hb hc hn [] [0x93F] output⟩

end Romanization.Scheme.Brahmic.Block
