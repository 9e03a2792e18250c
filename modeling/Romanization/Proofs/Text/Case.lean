import Romanization.Text.Case

namespace Romanization

namespace Unicode

def CaseSpan.Hits (u : CaseSpan) (c : CodePoint) : Prop :=
  u.first ≤ c ∧ c ≤ u.last ∧ (c - u.first) % u.stride = 0

theorem mappedBy?_eq_none {c : CodePoint} {spans : List CaseSpan} (h : ∀ u ∈ spans, ¬ u.Hits c) :
    mappedBy? c spans = none := by
  induction spans with
  | nil => rfl
  | cons u spans ih =>
    obtain ⟨hu, hs⟩ := List.forall_mem_cons.1 h
    unfold mappedBy?
    split
    · rfl
    · next hfirst => rw [if_neg fun hk => hu ⟨Nat.le_of_not_lt hfirst, hk⟩, ih hs]

theorem exists_span_of_mappedBy? {c d : CodePoint} {spans : List CaseSpan}
    (h : mappedBy? c spans = some d) : ∃ s ∈ spans, s.Hits c ∧ s.target + (c - s.first) = d := by
  induction spans with
  | nil => cases h
  | cons s spans ih =>
    unfold mappedBy? at h
    split at h
    · cases h
    · next hfirst =>
      split at h
      · next hs =>
        exact ⟨s, List.mem_cons_self, ⟨Nat.le_of_not_lt hfirst, hs⟩, Option.some.inj h⟩
      · obtain ⟨u, hu, hk⟩ := ih h
        exact ⟨u, List.mem_cons_of_mem s hu, hk⟩

/-- What `s` maps to lies outside `u`, or between the code points that `u` maps. -/
def CaseSpan.misses (s u : CaseSpan) : Bool :=
  u.last.blt s.target || (s.target + (s.last - s.first)).blt u.first ||
    ((s.stride.beq 2 || (s.last - s.first).beq 0) && u.stride.beq 2 && ((s.target + u.first) % 2).beq 1)

theorem CaseSpan.not_hits_of_misses {s u : CaseSpan} (h : s.misses u) {k : Nat}
    (hk : k ≤ s.last - s.first) (hs : k % s.stride = 0) : ¬ u.Hits (s.target + k) := by
  rintro ⟨hfirst, hlast, hu⟩
  simp only [misses, Bool.or_eq_true, Bool.and_eq_true, Nat.blt_eq, Nat.beq_eq, CodePoint] at *
  rcases h with (h | h) | ⟨⟨h, hstride⟩, hodd⟩
  · omega
  · omega
  · -- every second code point, from an odd distance
    have heven : k % 2 = 0 := by
      rcases h with h | h
      · rwa [h] at hs
      · omega
    rw [hstride] at hu
    omega

def dotted : CaseSpan := ⟨0x130, 0x130, 1, 0x69⟩

theorem misses_lowerSpans : ∀ s ∈ lowerSpans, ∀ u ∈ dotted :: lowerSpans, s.misses u := by
  have h : (lowerSpans.all fun s => (dotted :: lowerSpans).all s.misses) = true := by decide +kernel
  simpa only [List.all_eq_true] using h

/-- A code point that lower case leaves. The capital sigma, whose lower case depends on where it stands, is
none. -/
def IsLow (c : CodePoint) : Prop := c ≠ 0x3A3 ∧ c ≠ 0x130 ∧ mappedBy? c lowerSpans = none

instance (c : CodePoint) : Decidable (IsLow c) := inferInstanceAs (Decidable (_ ∧ _ ∧ _))

theorem IsLow.lowerCase_eq {c : CodePoint} (h : IsLow c) : lowerCase c = [c] := by
  rw [lowerCase, if_neg h.2.1, h.2.2]
  rfl

theorem isLow_of_not_hits {c : CodePoint} (h : ∀ u ∈ dotted :: lowerSpans, ¬ u.Hits c) : IsLow c := by
  obtain ⟨hd, hs⟩ := List.forall_mem_cons.1 h
  have hnone := mappedBy?_eq_none hs
  refine ⟨?_, ?_, hnone⟩
  · rintro rfl
    exact absurd hnone (by decide +kernel)
  · rintro rfl
    exact hd ⟨Nat.le_refl _, Nat.le_refl _, rfl⟩

theorem isLow_of_mem_lowerCase {c d : CodePoint} (hc : c ≠ 0x3A3) (hd : d ∈ lowerCase c) : IsLow d := by
  unfold lowerCase at hd
  split at hd
  · have hparts : ∀ d ∈ [0x69, 0x307], IsLow d := by decide +kernel
    exact hparts d hd
  · next hdot =>
    cases hm : mappedBy? c lowerSpans with
    | none =>
      rw [hm, Option.getD_none, List.mem_singleton] at hd
      subst hd
      exact ⟨hc, hdot, hm⟩
    | some e =>
      rw [hm, Option.getD_some, List.mem_singleton] at hd
      subst hd
      obtain ⟨s, hs, ⟨-, hlast, hstride⟩, rfl⟩ := exists_span_of_mappedBy? hm
      exact isLow_of_not_hits fun u hu =>
        CaseSpan.not_hits_of_misses (misses_lowerSpans s hs u hu) (Nat.sub_le_sub_right hlast _) hstride

end Unicode

namespace Text

open Unicode (IsLow)

theorem isLow_of_mem_lowerAfter {t before : Text} {d : CodePoint} (h : d ∈ lowerAfter before t) :
    IsLow d := by
  induction t generalizing before with
  | nil => cases h
  | cons c t ih =>
    rcases List.mem_append.1 h with h | h
    · split at h
      · have sigmas : ∀ d ∈ [0x3C2, 0x3C3], IsLow d := by decide +kernel
        refine sigmas d ?_
        split at h <;> simp_all
      · next hc => exact Unicode.isLow_of_mem_lowerCase hc h
    · exact ih h

theorem lowerAfter_of_isLow {t : Text} (h : ∀ c ∈ t, IsLow c) (before : Text) :
    lowerAfter before t = t := by
  induction t generalizing before with
  | nil => rfl
  | cons c t ih =>
    obtain ⟨hc, ht⟩ := List.forall_mem_cons.1 h
    rw [lowerAfter, if_neg hc.1, hc.lowerCase_eq, ih ht, List.singleton_append]

@[simp] theorem lower_lower (t : Text) : t.lower.lower = t.lower :=
  lowerAfter_of_isLow (fun _ => isLow_of_mem_lowerAfter) []

end Text

end Romanization
