import Mathlib.Data.List.Sort
import Romanization.Proofs.Romanizer
import Romanization.Proofs.RuleTable.Lookup

namespace Romanization.RuleTable

/-- Tables that do the same work, whatever the order of their rules. -/
structure Alike (t u : RuleTable) : Prop where
  maxPatternLength : t.maxPatternLength = u.maxPatternLength
  maxFragmentLength : t.maxFragmentLength = u.maxFragmentLength
  size : t.size = u.size
  lookup : ∀ (text : Text) (offset : Int) (limit : Option Int),
    t.lookup text offset limit = u.lookup text offset limit
  clusters : ∀ text, t.clusters text = u.clusters text
  romanized : ∀ (mode : CaseMode) (choice : CaseChoice) (text : Option Text),
    Romanizer.transliterate ⟨t, mode⟩ text choice = Romanizer.transliterate ⟨u, mode⟩ text choice

section Permuted

variable {t u : RuleTable} (h : t.rules.Perm u.rules)
include h

theorem patterns_perm : t.patterns.Perm u.patterns := h.map Prod.fst

theorem lengths_perm : t.lengths = u.lengths := by
  refine (pairwise_lengths t).eq_of_mem_iff (pairwise_lengths u) fun n => ?_
  simp only [mem_lengths, (patterns_perm h).mem_iff]

theorem probe_perm (window : Nat → Text) (ns : List Nat) : t.probe window ns = u.probe window ns := by
  induction ns with
  | nil => rfl
  | cons n ns ih =>
    have hf : t.fragment? (window n) = u.fragment? (window n) := Dictionary.find?_perm t.distinct h _
    rw [probe, probe, hf, ih]

theorem lookup_perm (text : Text) (offset : Int) (limit : Option Int) :
    t.lookup text offset limit = u.lookup text offset limit := by
  unfold lookup
  rw [lengths_perm h, probe_perm h]

theorem alike_of_perm (ht : t.Proper) (hu : u.Proper) : t.Alike u := by
  have hclusters : ∀ text, t.clusters text = u.clusters text :=
    fun text => ht.clusters_congr hu fun p f _ => h.mem_iff
  refine ⟨?_, ?_, h.length_eq, lookup_perm h, hclusters, fun mode choice text => ?_⟩
  · rw [maxPatternLength_eq, maxPatternLength_eq]
    exact greatest_perm ((patterns_perm h).map List.length)
  · rw [maxFragmentLength_eq, maxFragmentLength_eq]
    exact greatest_perm (h.map _)
  · rw [Romanizer.transliterate_eq_outcome, Romanizer.transliterate_eq_outcome]
    exact congrArg (fun cs => choice.apply mode (Text.trim (cs.flatMap Cluster.output)))
      (hclusters (text.getD []))

end Permuted

/-- Rules in another order make a table if and only if they do so in this one, and the two tables are alike. -/
theorem ofRules_perm (name : Text) {rules others : List Rule} (h : rules.Perm others) :
    ((∃ t, ofRules name rules = .ok t) ↔ ∃ u, ofRules name others = .ok u) ∧
      ∀ t u, ofRules name rules = .ok t → ofRules name others = .ok u → t.Alike u := by
  constructor
  · have hkeys : (Dictionary.keys rules).Perm (Dictionary.keys others) := h.map Prod.fst
    rw [ofRules_succeeds_iff, ofRules_succeeds_iff, hkeys.nodup_iff, hkeys.mem_iff]
  · intro t u ht hu
    have hrules : t.rules.Perm u.rules := by
      rwa [(rules_of_ofRules ht).2, (rules_of_ofRules hu).2]
    exact alike_of_perm hrules (Built.ofRules ht).proper (Built.ofRules hu).proper

theorem ofRules_perm_nested :
    let rules : List Rule := [("a".codePoints, "1".codePoints), ("abc".codePoints, []),
      ("ab".codePoints, "2".codePoints)]
    let twice : List Rule := ("ab".codePoints, "3".codePoints) :: rules
    (∃ t u, ofRules [] rules = .ok t ∧ ofRules [] rules.reverse = .ok u ∧ t.rules ≠ u.rules ∧ t.Alike u ∧
        u.clusters "abcab".codePoints = [⟨0, 3, [], true⟩, ⟨3, 2, "2".codePoints, true⟩]) ∧
      (¬ ∃ t, ofRules [] twice = .ok t) ∧ ¬ ∃ u, ofRules [] twice.reverse = .ok u := by
  intro rules twice
  obtain ⟨succeeds, alike⟩ := ofRules_perm [] (List.reverse_perm rules).symm
  obtain ⟨refused, -⟩ := ofRules_perm [] (List.reverse_perm twice).symm
  have ht : ofRules [] rules = .ok ⟨[], rules, by decide⟩ := ofRules_eq_ok (by decide) (by decide)
  have hu : ofRules [] rules.reverse = .ok ⟨[], rules.reverse, by decide⟩ :=
    ofRules_eq_ok (by decide) (by decide)
  have hn : ¬ ∃ t, ofRules [] twice = .ok t := by
    rw [ofRules_succeeds_iff]
    decide
  exact ⟨⟨_, _, ht, hu, by decide, alike _ _ ht hu, by decide⟩, hn, fun hr => hn (refused.2 hr)⟩

end Romanization.RuleTable
