import Romanization.Proofs.RuleTable.ByScript
import Romanization.Proofs.Scheme.Brahmic.Rules

namespace Romanization.Scheme

namespace Cyrillic

theorem nodup_rules : (Dictionary.keys rules).Nodup := by decide +kernel

theorem pattern_of_mem_rules :
    ∀ r ∈ rules, r.1 ≠ [] ∧ ∀ c ∈ r.1, Script.cyrillic.contains c := by
  decide +kernel

end Cyrillic

open Brahmic (blocks)

def rulesFor : Script → Dictionary Text
  | .devanagari => Brahmic.devanagari.rules
  | .bengali => Brahmic.bengali.rules
  | .gurmukhi => Brahmic.gurmukhi.rules
  | .gujarati => Brahmic.gujarati.rules
  | .cyrillic => Cyrillic.rules
  | .latin => []

theorem rulesFor_cases {motive : Script → Dictionary Text → Prop}
    (block : ∀ b ∈ blocks, motive b.script b.rules) (cyrillic : motive .cyrillic Cyrillic.rules)
    (latin : motive .latin []) (s : Script) : motive s (rulesFor s) := by
  cases s with
  | devanagari => exact block Brahmic.devanagari (by simp [blocks])
  | bengali => exact block Brahmic.bengali (by simp [blocks])
  | gurmukhi => exact block Brahmic.gurmukhi (by simp [blocks])
  | gujarati => exact block Brahmic.gujarati (by simp [blocks])
  | cyrillic => exact cyrillic
  | latin => exact latin

theorem nodup_rulesFor (s : Script) : (rulesFor s).keys.Nodup := by
  apply rulesFor_cases (motive := fun _ rules => rules.keys.Nodup)
  · exact fun b hb => Brahmic.Block.nodup_rules hb
  · exact Cyrillic.nodup_rules
  · exact List.nodup_nil

theorem nil_notMem_rulesFor (s : Script) : [] ∉ (rulesFor s).keys := by
  apply rulesFor_cases (motive := fun _ rules => [] ∉ rules.keys)
  · exact fun b hb => Brahmic.Block.nil_notMem_rules hb
  · intro h
    obtain ⟨f, hf⟩ := Dictionary.mem_keys.1 h
    exact (Cyrillic.pattern_of_mem_rules _ hf).1 rfl
  · exact List.not_mem_nil

theorem contains_of_mem_rulesFor (s : Script) :
    ∀ p ∈ (rulesFor s).keys, ∀ c ∈ p, s.contains c := by
  apply rulesFor_cases (motive := fun s rules => ∀ p ∈ rules.keys, ∀ c ∈ p, s.contains c)
  · intro b hb p hp
    obtain ⟨f, hf⟩ := Dictionary.mem_keys.1 hp
    exact Brahmic.Block.contains_of_mem_rules hb hf
  · intro p hp
    obtain ⟨f, hf⟩ := Dictionary.mem_keys.1 hp
    exact (Cyrillic.pattern_of_mem_rules _ hf).2
  · intro p hp
    cases hp

def tableFor (s : Script) : RuleTable := ⟨s.name, rulesFor s, nodup_rulesFor s⟩

def covered : List Script := [.devanagari, .bengali, .gurmukhi, .gujarati, .cyrillic]

theorem mem_covered {s : Script} : s ∈ covered ↔ s ≠ .latin := by
  cases s <;> decide

theorem tables_builtIn : builtIn.map table = covered.map fun s => .ok (tableFor s) := by
  have ok : ∀ s, RuleTable.ofRules s.name (rulesFor s) = .ok (tableFor s) := fun s =>
    RuleTable.ofRules_eq_ok (nodup_rulesFor s) (nil_notMem_rulesFor s)
  simp only [← ok]
  rfl

theorem exists_table_eq {s : Scheme} (hs : s ∈ builtIn) : ∃ u, s.table = .ok (tableFor u) := by
  have hm := List.mem_map_of_mem (f := table) hs
  rw [tables_builtIn] at hm
  obtain ⟨u, -, hu⟩ := List.mem_map.1 hm
  exact ⟨u, hu.symm⟩

theorem disjoint_rulesFor {s u : Script} (h : s ≠ u) :
    (rulesFor s).keys.Disjoint (rulesFor u).keys := by
  intro p hs hu
  cases p with
  | nil => exact nil_notMem_rulesFor s hs
  | cons c p =>
    apply h
    exact Script.eq_of_contains (contains_of_mem_rulesFor s _ hs c List.mem_cons_self)
      (contains_of_mem_rulesFor u _ hu c List.mem_cons_self)

def allRules : Dictionary Text := covered.flatMap rulesFor

theorem nodup_allRules : allRules.keys.Nodup := by
  have hk : allRules.keys = covered.flatMap fun s => (rulesFor s).keys := List.map_flatMap
  rw [hk, List.nodup_flatMap]
  constructor
  · exact fun s _ => nodup_rulesFor s
  · have hc : covered.Pairwise (· ≠ ·) := by decide
    exact hc.imp disjoint_rulesFor

theorem nil_notMem_allRules : [] ∉ allRules.keys := by
  intro h
  obtain ⟨f, h⟩ := Dictionary.mem_keys.1 h
  obtain ⟨s, -, h⟩ := List.mem_flatMap.1 h
  exact nil_notMem_rulesFor s (Dictionary.mem_keys.2 ⟨f, h⟩)

def allTable (name : Text) : RuleTable := ⟨name, allRules, nodup_allRules⟩

theorem merge_tables (name : Text) :
    RuleTable.merge name (covered.map tableFor) = .ok (allTable name) := by
  have hr : (covered.map tableFor).flatMap RuleTable.rules = allRules := by
    rw [List.flatMap_map]
    rfl
  rw [RuleTable.merge, hr]
  exact RuleTable.ofRules_eq_ok nodup_allRules nil_notMem_allRules

theorem joins_allTable (name : Text) : (allTable name).Joins tableFor where
  mem_rules p f := by
    change (p, f) ∈ covered.flatMap rulesFor ↔ _
    rw [List.mem_flatMap]
    constructor
    · rintro ⟨s, -, h⟩
      exact ⟨s, h⟩
    · rintro ⟨s, h⟩
      refine ⟨s, mem_covered.2 ?_, h⟩
      rintro rfl
      cases h
  proper := nil_notMem_rulesFor
  within := contains_of_mem_rulesFor
  latin := rfl

theorem rulesFor_script {b : Brahmic.Block} (hb : b ∈ blocks) : rulesFor b.script = b.rules := by
  simp only [blocks, List.mem_cons, List.not_mem_nil, or_false] at hb
  rcases hb with rfl | rfl | rfl | rfl <;> rfl

theorem mem_allRules_iff (name : Text) {p f : Text} :
    (p, f) ∈ (allTable name).rules ↔ ∃ s, (p, f) ∈ rulesFor s :=
  (joins_allTable name).mem_rules p f

theorem mem_rules_of_contains {b : Brahmic.Block} (hb : b ∈ blocks) (name : Text) {c : CodePoint}
    {p f : Text} (hc : c ∈ p) (hs : b.script.contains c) :
    (p, f) ∈ (allTable name).rules ↔ (p, f) ∈ b.rules := by
  rw [mem_allRules_iff, ← rulesFor_script hb]
  constructor
  · rintro ⟨s, hm⟩
    have hp : s.contains c := contains_of_mem_rulesFor s p (Dictionary.mem_keys.2 ⟨f, hm⟩) c hc
    rwa [Script.eq_of_contains hs hp]
  · exact fun hm => ⟨_, hm⟩

end Romanization.Scheme
