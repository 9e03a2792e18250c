import Romanization.Proofs.Catalog.Standard
import Romanization.Proofs.Romanizer
import Romanization.Proofs.Scheme.Brahmic.Respelling

namespace Romanization

open Scheme (allTable)
open Scheme.Brahmic (Block blocks)

namespace Scheme

variable {b : Block} {c : CodePoint} {p : Text}

theorem mem_patterns_of_letter (hb : b ∈ blocks) (name : Text) (hc : c ∈ p)
    (hl : (b.letter? c).isSome) : p ∈ (allTable name).patterns ↔ p ∈ (b.table hb).patterns := by
  have hs := Block.contains_letter hb hl
  simp only [RuleTable.patterns, Dictionary.mem_keys, mem_rules_of_contains hb name hc hs]
  rfl

theorem sameReading_allTable (hb : b ∈ blocks) (name : Text) {base mark : CodePoint}
    (hc : (b.letter? c).isSome) (hbase : (b.letter? base).isSome)
    (h : (b.table hb).SameReading c base mark) : (allTable name).SameReading c base mark where
  spelled := h.spelled
  rules e f := by
    rw [mem_rules_of_contains hb name List.mem_cons_self (Block.contains_letter hb hc),
      mem_rules_of_contains hb name List.mem_cons_self (Block.contains_letter hb hbase)]
    exact h.rules e f

theorem allTable_respells (name : Text) :
    (allTable name).Respells fun c => ∃ b ∈ blocks, (b.letter? c).isSome where
  proper := nil_notMem_allRules
  tail := by
    rintro p hp c hc ⟨b, hb, hl⟩
    have hp' := (mem_patterns_of_letter hb name (List.mem_of_mem_tail hc) hl).1 hp
    exact (Block.table_respells hb).tail p hp' c hc hl
  single := by
    rintro c ⟨b, hb, hl⟩
    exact (mem_patterns_of_letter hb name List.mem_cons_self hl).2 (Block.single_mem_patterns hb hl)
  parts := by
    rintro c ⟨b, hb, hl⟩
    refine (Block.spellings_of_letter? hb hl).imp_right ?_
    rintro ⟨base, hbase, hs⟩
    exact ⟨base, b.nukta, ⟨b, hb, hbase⟩, sameReading_allTable hb name hl hbase hs⟩

end Scheme

structure RuleTable.ReadsAlike (t : RuleTable) (text other : Text) : Prop where
  outputs : (t.clusters text).flatMap Cluster.output = (t.clusters other).flatMap Cluster.output
  romanized : ∀ (mode : CaseMode) (choice : CaseChoice),
    Romanizer.transliterate ⟨t, mode⟩ (some text) choice =
      Romanizer.transliterate ⟨t, mode⟩ (some other) choice

theorem RuleTable.Respells.readsAlike {t : RuleTable} {letter : CodePoint → Prop} {text other : Text}
    (h : t.Respells letter) (hr : Text.Respelled letter text other) : t.ReadsAlike text other := by
  have ho : (t.clusters text).flatMap Cluster.output = (t.clusters other).flatMap Cluster.output :=
    h.outputs_eq hr 0 0
  refine ⟨ho, fun mode choice => ?_⟩
  rw [Romanizer.transliterate_eq_outcome, Romanizer.transliterate_eq_outcome]
  exact congrArg (fun o => choice.apply mode (Text.trim o)) ho

namespace Catalog

/-- Any letters of a Brahmic text may be taken apart, and it reads the same with the table of its script,
as a text of several scripts does with the combined table. -/
theorem readsAlike_of_respelled :
    (∀ b ∈ blocks, ∃ t, (Scheme.ofBlock b).table = .ok t ∧
      ∀ text other, Text.Respelled (fun c => (b.letter? c).isSome) text other →
        t.ReadsAlike text other) ∧
    ∃ c t, standard = .ok c ∧ c.table (some combinedName) = .ok t ∧
      ∀ text other, Text.Respelled (fun c => ∃ b ∈ blocks, (b.letter? c).isSome) text other →
        t.ReadsAlike text other := by
  constructor
  · intro b hb
    exact ⟨b.table hb, Block.ofBlock_table hb, fun _ _ hr => (Block.table_respells hb).readsAlike hr⟩
  · obtain ⟨c, hc, -, hu⟩ := standard_eq_ok
    exact ⟨c, allTable combinedName, hc, table_combinedName hu,
      fun _ _ hr => (Scheme.allTable_respells combinedName).readsAlike hr⟩

theorem readsAlike_of_respelled_sha :
    Scheme.Brahmic.gurmukhi ∈ blocks ∧
      (∃ t, (Scheme.ofBlock Scheme.Brahmic.gurmukhi).table = .ok t ∧
        t.ReadsAlike [0xA36, 0xA3C, 0xA3F] [0xA38, 0xA3C, 0xA3C, 0xA3F]) ∧
      ∃ c t, standard = .ok c ∧ c.table (some combinedName) = .ok t ∧
        t.ReadsAlike [0x958, 0x94D, 0x20, 0xA36, 0xA3F]
          [0x915, 0x93C, 0x94D, 0x20, 0xA38, 0xA3C, 0xA3F] := by
  have hb : Scheme.Brahmic.gurmukhi ∈ blocks := by simp [blocks]
  have hd : Scheme.Brahmic.devanagari ∈ blocks := by simp [blocks]
  have sha : Unicode.decomposed [0xA36] = [0xA38, 0xA3C] := by decide +kernel
  have qa : Unicode.decomposed [0x958] = [0x915, 0x93C] := by decide +kernel
  have hsha : (Scheme.Brahmic.gurmukhi.letter? 0xA36).isSome := by decide
  have hqa : (Scheme.Brahmic.devanagari.letter? 0x958).isSome := by decide
  obtain ⟨one, c, u, hc, hu, all⟩ := readsAlike_of_respelled
  obtain ⟨t, ht, h⟩ := one _ hb
  refine ⟨hb, ⟨t, ht, h _ _ ?_⟩, c, u, hc, hu, all _ _ ?_⟩
  · have hr : Text.Respelled (fun c => (Scheme.Brahmic.gurmukhi.letter? c).isSome) [0xA36, 0xA3C, 0xA3F]
        (Unicode.decomposed [0xA36] ++ [0xA3C, 0xA3F]) :=
      .takeApart hsha (.keep _ (.keep _ .nil))
    rwa [sha] at hr
  · have hr : Text.Respelled (fun c => ∃ b ∈ blocks, (b.letter? c).isSome)
        [0x958, 0x94D, 0x20, 0xA36, 0xA3F]
        (Unicode.decomposed [0x958] ++ 0x94D :: 0x20 :: (Unicode.decomposed [0xA36] ++ [0xA3F])) :=
      .takeApart ⟨_, hd, hqa⟩ (.keep _ (.keep _ (.takeApart ⟨_, hb, hsha⟩ (.keep _ .nil))))
    rwa [qa, sha] at hr

end Catalog

end Romanization
