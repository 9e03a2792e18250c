import Romanization.Proofs.Romanizer
import Romanization.Proofs.RuleTable.Tiling
import Romanization.Proofs.Text.Blank

namespace Romanization.RuleTable

variable {t : RuleTable} {text p : Text} {c : CodePoint}

theorem Proper.of_mem_outputs (ht : t.Proper) (h : c ∈ (t.clusters text).flatMap Cluster.output) :
    (∃ r ∈ t.rules, c ∈ r.2) ∨ (c ∈ text ∧ [c] ∉ t.patterns) := by
  obtain ⟨k, hk, hc⟩ := List.mem_flatMap.1 h
  have hreads := ht.reads_of_mem hk
  cases hm : k.matched with
  | true =>
    obtain ⟨-, -, hf⟩ := hreads.longest hm
    exact .inl ⟨_, fragment?_eq_some_iff.1 hf, hc⟩
  | false =>
    obtain ⟨-, unit, hu, ho⟩ := hreads.passed hm
    obtain rfl : c = unit := by simpa [ho] using hc
    refine .inr ⟨List.mem_of_getElem? hu, fun hp => ?_⟩
    have hstart : [c] <+: text.drop k.start := by
      obtain ⟨hlt, rfl⟩ := List.getElem?_eq_some_iff.1 hu
      rw [List.drop_eq_getElem_cons hlt]
      exact List.cons_prefix_cons.2 ⟨rfl, List.nil_prefix⟩
    rw [hreads.matched_iff.2 ⟨_, hp, hstart⟩] at hm
    cases hm

structure Thorough (t : RuleTable) : Prop where
  proper : t.Proper
  unit : ∀ p ∈ t.patterns, ∀ c ∈ p, [c] ∈ t.patterns
  fragment : ∀ r ∈ t.rules, ∀ c ∈ r.2, [c] ∉ t.patterns

/-- Nothing that occurs in a pattern is put out, in whatever way the case is left as it is, and what is put
out stays as it is. -/
structure Settles (t : RuleTable) : Prop where
  unmapped : ∀ (mode : CaseMode) (choice : CaseChoice), choice.apply mode = id →
    ∀ text, ∀ p ∈ t.patterns, ∀ c ∈ p, c ∉ Romanizer.transliterate ⟨t, mode⟩ text choice
  again : ∀ (mode : CaseMode) (choice : CaseChoice), choice.apply mode = id →
    ∀ text, let output := Romanizer.transliterate ⟨t, mode⟩ text choice
      Romanizer.transliterate ⟨t, mode⟩ (some output) choice = output

namespace Thorough

variable (h : t.Thorough)
include h

theorem notMem_outputs (hp : p ∈ t.patterns) (hc : c ∈ p) :
    c ∉ (t.clusters text).flatMap Cluster.output := by
  intro hm
  have hunit := h.unit p hp c hc
  rcases h.proper.of_mem_outputs hm with ⟨r, hr, hcr⟩ | ⟨-, hn⟩
  · exact h.fragment r hr c hcr hunit
  · exact hn hunit

theorem outputs_eq_self (hn : ∀ p ∈ t.patterns, ∀ c ∈ p, c ∉ text) :
    (t.clusters text).flatMap Cluster.output = text := by
  refine flatMap_output_clusters_of_no_pattern fun p hp hi => ?_
  obtain ⟨c, p, rfl⟩ := List.exists_cons_of_ne_nil fun hnil : p = [] => h.proper (hnil ▸ hp)
  exact hn _ hp c List.mem_cons_self (hi.subset List.mem_cons_self)

theorem settles : t.Settles := by
  have output_eq : ∀ {mode choice}, CaseChoice.apply mode choice = id → ∀ text,
      Romanizer.transliterate ⟨t, mode⟩ text choice =
        Text.trim ((t.clusters (text.getD [])).flatMap Cluster.output) := by
    intro mode choice hid text
    rw [Romanizer.transliterate_eq_outcome, Romanizer.outcome, hid]
    rfl
  have unmapped : ∀ {text p}, p ∈ t.patterns → ∀ c ∈ p,
      c ∉ Text.trim ((t.clusters text).flatMap Cluster.output) :=
    fun hp c hc hm => h.notMem_outputs hp hc (Text.trim_subset _ hm)
  refine ⟨fun mode choice hid text p hp c hc => ?_, fun mode choice hid text => ?_⟩
  · rw [output_eq hid]
    exact unmapped hp c hc
  · simp only [output_eq hid, Option.getD_some]
    rw [h.outputs_eq_self fun p hp c hc => unmapped hp c hc, Text.trim_trim]

end Thorough

end Romanization.RuleTable
