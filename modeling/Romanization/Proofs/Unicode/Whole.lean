import Romanization.Proofs.Text.Case
import Romanization.Proofs.Text.Whole
import Romanization.Proofs.Unicode.NormalForm

namespace Romanization

open CodePoint (isSurrogate isSurrogate_eq_false_iff)

namespace Unicode

variable {c d : CodePoint} {t : Text}

def CaseSpan.isClear (s : CaseSpan) : Bool :=
  (s.target + (s.last - s.first)).blt 0xD800 || Nat.blt 0xDFFF s.target

theorem CaseSpan.whole_of_isClear {s : CaseSpan} (h : s.isClear) {k : Nat} (hk : k ≤ s.last - s.first) :
    isSurrogate (s.target + k) = false := by
  rw [isSurrogate_eq_false_iff]
  simp only [isClear, Bool.or_eq_true, Nat.blt_eq, CodePoint] at *
  omega

theorem isSurrogate_of_mappedBy? {spans : List CaseSpan} (hs : ∀ s ∈ spans, s.isClear)
    (h : mappedBy? c spans = some d) : isSurrogate d = false := by
  obtain ⟨s, hm, ⟨-, hlast, -⟩, rfl⟩ := exists_span_of_mappedBy? h
  exact CaseSpan.whole_of_isClear (hs s hm) (Nat.sub_le_sub_right hlast _)

theorem isClear_spans : ∀ s ∈ lowerSpans ++ upperSpans, s.isClear := by
  have h : ((lowerSpans ++ upperSpans).all CaseSpan.isClear) = true := by decide +kernel
  exact List.all_eq_true.1 h

theorem whole_upperExpansions : ∀ e ∈ upperExpansions, Text.Whole e.2 := by decide +kernel

theorem whole_lowerCase (h : isSurrogate c = false) : Text.Whole (lowerCase c) := by
  unfold lowerCase
  split
  · decide
  · cases hm : mappedBy? c lowerSpans with
    | none => exact Text.whole_cons.2 ⟨h, Text.whole_nil⟩
    | some d =>
      have hd := isSurrogate_of_mappedBy? (fun s hs => isClear_spans s (List.mem_append_left _ hs)) hm
      exact Text.whole_cons.2 ⟨hd, Text.whole_nil⟩

theorem whole_upperCase (h : isSurrogate c = false) : Text.Whole (upperCase c) := by
  unfold upperCase
  split
  · next d hm =>
    have hd := isSurrogate_of_mappedBy? (fun s hs => isClear_spans s (List.mem_append_right _ hs)) hm
    exact Text.whole_cons.2 ⟨hd, Text.whole_nil⟩
  · cases hl : upperExpansions.lookup c with
    | none => exact Text.whole_cons.2 ⟨h, Text.whole_nil⟩
    | some t => exact whole_upperExpansions _ (mem_of_lookup_eq_some hl)

theorem whole_decompositionPages : ∀ page ∈ decompositionPages, ∀ row ∈ page.2, Text.Whole row.2 := by
  decide +kernel

theorem whole_decompose (h : isSurrogate c = false) : Text.Whole (decompose c) := by
  refine forall_decompose (P := fun c => isSurrogate c = false)
    (fun page hp row hr _ => whole_decompositionPages page hp row hr) ?_ h
  intro d hd
  rw [isSurrogate_eq_false_iff]
  simp only [Hangul.IsJamo, Hangul.leadBase, Hangul.vowelBase, Hangul.tailBase, CodePoint] at *
  omega

theorem Hangul.isSurrogate_of_compose? {a b : CodePoint} (h : compose? a b = some c) :
    isSurrogate c = false := by
  rw [isSurrogate_eq_false_iff]
  unfold compose? at h
  split at h
  · have hc := Option.some.inj h
    simp only [leadBase, vowelBase, syllableBase, CodePoint] at *
    omega
  · split at h
    · have hc := Option.some.inj h
      simp only [leadBase, vowelBase, tailBase, syllableBase, CodePoint] at *
      omega
    · cases h

theorem whole_compositions : ∀ e ∈ compositions, ∀ row ∈ e.2, isSurrogate row.2 = false := by
  decide +kernel

theorem isSurrogate_of_compose? {a b : CodePoint} (h : compose? a b = some c) : isSurrogate c = false := by
  rcases Option.or_eq_some_iff.1 h with h | ⟨-, h⟩
  · exact Hangul.isSurrogate_of_compose? h
  · obtain ⟨rows, hs, hr⟩ := Option.bind_eq_some_iff.1 h
    exact whole_compositions _ (mem_of_lookup_eq_some hs) _ (mem_of_lookup_eq_some hr)

theorem whole_composed (h : t.Whole) : Text.Whole (composed t) :=
  forall_composed (fun _ => whole_decompose) (fun _ _ _ => isSurrogate_of_compose?) h

end Unicode

namespace Text.Whole

variable {t : Text} (h : t.Whole)
include h

theorem lower : t.lower.Whole := by
  have hafter : ∀ before, Whole (lowerAfter before t) := by
    induction t with
    | nil => exact fun _ => whole_nil
    | cons c t ih =>
      intro before
      obtain ⟨hc, ht⟩ := whole_cons.1 h
      refine whole_append.2 ⟨?_, ih ht _⟩
      split
      · split <;> decide
      · exact Unicode.whole_lowerCase hc
  exact hafter []

theorem upper : t.upper.Whole := whole_flatMap.2 fun c hc => Unicode.whole_upperCase (h c hc)

theorem tidy (compose : Bool) : (t.tidy compose).Whole := by
  unfold Text.tidy
  refine unwords_words ?_
  split
  · exact Unicode.whole_composed h.trim
  · exact h.trim

theorem cased (mode : CaseMode) : (mode.apply t).Whole := by
  cases mode with
  | preserve => exact h
  | lower => exact h.lower
  | upper => exact h.upper

end Text.Whole

end Romanization
