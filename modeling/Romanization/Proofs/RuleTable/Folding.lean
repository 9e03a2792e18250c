import Romanization.Proofs.Romanizer

namespace Romanization

def Hit.map (f : CodePoint → CodePoint) (h : Hit) : Hit := { h with fragment := h.fragment.map f }

def Cluster.map (f : CodePoint → CodePoint) (c : Cluster) : Cluster := { c with output := c.output.map f }

namespace RuleTable

structure Folds (t : RuleTable) (f : CodePoint → CodePoint) (inQuestion : Text → Prop) : Prop where
  proper : t.Proper
  mapped : ∀ r ∈ t.rules, (r.1.map f, r.2.map f) ∈ t.rules
  lifted : ∀ q, inQuestion q → q.map f ∈ t.patterns → q ∈ t.patterns
  part : ∀ q text, q <:+: text → inQuestion text → inQuestion q

namespace Folds

variable {t : RuleTable} {f : CodePoint → CodePoint} {inQuestion : Text → Prop} {text : Text}

theorem exists_start (h : t.Folds f inQuestion) (ht : inQuestion text) {q : Text} (hq : q ∈ t.patterns)
    (hs : q <+: text.map f) : ∃ p ∈ t.patterns, p <+: text ∧ q = p.map f := by
  obtain ⟨p, hp, rfl⟩ := List.prefix_map_iff.1 hs
  exact ⟨p, h.lifted p (h.part p text hp.isInfix ht) hq, hp, rfl⟩

theorem hit?_map (h : t.Folds f inQuestion) (ht : inQuestion text) :
    t.hit? (text.map f) = (t.hit? text).map (Hit.map f) := by
  cases hh : t.hit? text with
  | none =>
    refine hit?_eq_none_iff.2 fun q hq hs => ?_
    obtain ⟨p, hp, hps, -⟩ := h.exists_start ht hq hs
    exact hit?_eq_none_iff.1 hh p hp hps
  | some hit =>
    obtain ⟨p, hp, hf, hl⟩ := hit?_eq_some_iff.1 hh
    have hrule := h.mapped _ (fragment?_eq_some_iff.1 hf)
    have hlength : (p.map f).length = p.length := List.length_map f
    refine hit?_eq_some_iff.2 ⟨p.map f, ⟨Dictionary.mem_keys.2 ⟨_, hrule⟩, hp.start.map f, ?_⟩,
      fragment?_eq_some_iff.2 hrule, hlength.trans hl⟩
    intro q hq hs
    obtain ⟨r, hr, hrs, rfl⟩ := h.exists_start ht hq hs
    rw [List.length_map, hlength]
    exact hp.longest r hr hrs

theorem clustersFrom_map (h : t.Folds f inQuestion) (ht : inQuestion text) (offset : Nat) :
    t.clustersFrom offset (text.map f) = (t.clustersFrom offset text).map (Cluster.map f) := by
  have hp := h.proper
  induction text using hp.induction generalizing offset with
  | nil => rfl
  | hit text hit hh ih =>
    have hmap := h.hit?_map ht
    rw [hh] at hmap
    have hrest := h.part _ text (List.drop_suffix hit.length text).isInfix ht
    rw [hp.clustersFrom_of_hit hmap, hp.clustersFrom_of_hit hh, List.map_cons, ← ih hrest, List.map_drop]
    rfl
  | pass c text hh ih =>
    have hmap := h.hit?_map ht
    rw [hh] at hmap
    have hrest := h.part text _ (List.suffix_cons c text).isInfix ht
    rw [List.map_cons, hp.clustersFrom_of_no_hit hmap, hp.clustersFrom_of_no_hit hh, List.map_cons,
      ← ih hrest]
    rfl

theorem clusters_map (h : t.Folds f inQuestion) (ht : inQuestion text) :
    t.clusters (text.map f) = (t.clusters text).map (Cluster.map f) :=
  h.clustersFrom_map ht 0

theorem untrimmed_map (h : t.Folds f inQuestion) (ht : inQuestion text) :
    Romanizer.untrimmed t (text.map f) = (Romanizer.untrimmed t text).map f := by
  rw [Romanizer.untrimmed_eq, Romanizer.untrimmed_eq, h.clusters_map ht, List.flatMap_map, List.map_flatMap]
  rfl

end Folds

end RuleTable

end Romanization
