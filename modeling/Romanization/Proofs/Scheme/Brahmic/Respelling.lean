import Romanization.Proofs.RuleTable.Respelling
import Romanization.Proofs.Scheme.Brahmic.InherentVowel

namespace Romanization.Scheme.Brahmic.Block

variable {b : Block} {c d : CodePoint} {e f : Text}

theorem mem_rules_letter_iff (hb : b ∈ blocks) (hc : (b.letter? c).isSome) :
    (c :: e, f) ∈ b.rules ↔ ∃ s x v, (x, v) ∈ b.endings ∧ f = s ++ v ∧
      ((e = x ∧ b.letter? c = some s) ∨ (e = b.nukta :: x ∧ b.nuktaSound? c = some s)) := by
  rw [mem_rules_iff hb]
  constructor
  · rintro (⟨l, s, x, v, hl, hx, hp, rfl⟩ | ⟨d, hp, ho⟩)
    · refine ⟨s, x, v, hx, rfl, ?_⟩
      obtain ⟨d, ⟨rfl, hd⟩ | ⟨rfl, hd⟩⟩ := (mem_consonantSounds_iff hb).1 hl
      · obtain ⟨rfl, rfl⟩ := List.cons.inj hp
        exact .inl ⟨rfl, hd⟩
      · obtain ⟨rfl, rfl⟩ := List.cons.inj hp
        exact .inr ⟨rfl, hd⟩
    · obtain ⟨rfl, -⟩ := List.cons.inj hp
      obtain ⟨s, hs⟩ := Option.isSome_iff_exists.1 hc
      rw [other?_of_letter? hb hs] at ho
      cases ho
  · rintro ⟨s, x, v, hx, rfl, ⟨rfl, hs⟩ | ⟨rfl, hs⟩⟩
    · exact .inl ⟨[c], s, e, v, (mem_consonantSounds_iff hb).2 ⟨c, .inl ⟨rfl, hs⟩⟩, hx, rfl, rfl⟩
    · exact .inl ⟨[c, b.nukta], s, x, v, (mem_consonantSounds_iff hb).2 ⟨c, .inr ⟨rfl, hs⟩⟩, hx, rfl, rfl⟩

theorem mem_rules_unmarked_iff (hb : b ∈ blocks) (hc : (b.letter? c).isSome)
    (hn : b.nuktaSound? c = none) :
    (c :: e, f) ∈ b.rules ↔ ∃ s v, (e, v) ∈ b.endings ∧ f = s ++ v ∧ b.letter? c = some s := by
  rw [mem_rules_letter_iff hb hc]
  constructor
  · rintro ⟨s, x, v, hx, hf, ⟨rfl, hs⟩ | ⟨-, hs⟩⟩
    · exact ⟨s, v, hx, hf, hs⟩
    · rw [hn] at hs
      cases hs
  · rintro ⟨s, v, he, hf, hs⟩
    exact ⟨s, e, v, he, hf, .inl ⟨rfl, hs⟩⟩

theorem mem_rules_marked_iff (hb : b ∈ blocks) (hd : (b.letter? d).isSome) :
    (d :: b.nukta :: e, f) ∈ b.rules ↔
      ∃ s v, (e, v) ∈ b.endings ∧ f = s ++ v ∧ b.nuktaSound? d = some s := by
  rw [mem_rules_letter_iff hb hd]
  constructor
  · rintro ⟨s, x, v, hx, hf, ⟨rfl, -⟩ | ⟨he, hs⟩⟩
    · exact (not_nukta_ending hx).elim
    · obtain ⟨-, rfl⟩ := List.cons.inj he
      exact ⟨s, v, hx, hf, hs⟩
  · rintro ⟨s, v, he, hf, hs⟩
    exact ⟨s, e, v, he, hf, .inr ⟨rfl, hs⟩⟩

theorem spellings_of_letter? (hb : b ∈ blocks) (hc : (b.letter? c).isSome) :
    Unicode.decomposed [c] = [c] ∨ ∃ base, (b.letter? base).isSome ∧
      (b.table hb).SameReading c base b.nukta := by
  obtain ⟨o, ho, rfl⟩ := letter?_isSome_iff.1 hc
  refine (spellings_letter b hb o ho).imp_right ?_
  rintro ⟨base, hbase, hd, hsound, hn⟩
  have hl : (b.letter? (b.start + base)).isSome := letter?_isSome_iff.2 ⟨base, hbase, rfl⟩
  refine ⟨b.start + base, hl, hd, fun e f => ?_⟩
  change _ ∈ b.rules ↔ _ ∈ b.rules
  rw [mem_rules_unmarked_iff hb hc hn, mem_rules_marked_iff hb hl, hsound]

theorem single_mem_patterns (hb : b ∈ blocks) (hc : (b.letter? c).isSome) :
    [c] ∈ (b.table hb).patterns := by
  obtain ⟨s, hs⟩ := Option.isSome_iff_exists.1 hc
  have ha : ([], "a".codePoints) ∈ b.endings := List.mem_cons_self
  exact Dictionary.mem_keys.2
    ⟨s ++ "a".codePoints, (mem_rules_letter_iff hb hc).2 ⟨s, [], _, ha, rfl, .inl ⟨rfl, hs⟩⟩⟩

theorem table_respells (hb : b ∈ blocks) :
    (b.table hb).Respells fun c => (b.letter? c).isSome where
  proper := table_proper hb
  tail p hp c hc h := by
    rw [letter?_of_mem_tail hb hp hc] at h
    cases h
  single c hc := single_mem_patterns hb hc
  parts c hc := (spellings_of_letter? hb hc).imp_right fun ⟨base, hbase, hs⟩ =>
    ⟨base, b.nukta, hbase, hs⟩

end Romanization.Scheme.Brahmic.Block
