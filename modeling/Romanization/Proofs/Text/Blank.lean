import Mathlib.Data.List.DropRight
import Romanization.Text.Blank

namespace Romanization.Text

theorem trimEnd_eq_rdropWhile (t : Text) : t.trimEnd = t.rdropWhile isBlank := rfl

theorem trim_subset (t : Text) : t.trim ⊆ t := by
  rw [trim, trimEnd_eq_rdropWhile]
  exact fun _ h => (List.dropWhile_sublist _).subset ((List.rdropWhile_prefix isBlank _).subset h)

theorem mem_trim {c : CodePoint} {t : Text} (h : c ∈ t) (hc : isBlank c = false) : c ∈ t.trim := by
  have drop : ∀ s : Text, c ∈ s → c ∈ s.dropWhile isBlank := by
    intro s hs
    rw [← List.takeWhile_append_dropWhile (p := isBlank) (l := s), List.mem_append] at hs
    cases hs with
    | inl hs => rw [List.mem_takeWhile_imp hs] at hc; cases hc
    | inr hs => exact hs
  rw [trim, trimEnd, List.mem_reverse]
  exact drop _ (List.mem_reverse.2 (drop t h))

theorem trim_eq_nil_iff {t : Text} : t.trim = [] ↔ ∀ c ∈ t, isBlank c = true := by
  constructor
  · intro h c hc
    by_contra hb
    have hm := mem_trim hc (Bool.eq_false_iff.2 hb)
    rw [h] at hm
    cases hm
  · intro h
    rw [trim, trimStart, List.dropWhile_eq_nil_iff.2 h]
    rfl

theorem trimStart_trimEnd (t : Text) : t.trimStart.trimEnd.trimStart = t.trimStart.trimEnd := by
  rw [trimEnd_eq_rdropWhile, trimStart, trimStart, List.dropWhile_eq_self_iff]
  intro h
  have hp := List.rdropWhile_prefix isBlank (t.dropWhile isBlank)
  rw [hp.getElem h]
  exact List.dropWhile_get_zero_not isBlank t (Nat.lt_of_lt_of_le h hp.length_le)

@[simp] theorem trim_trim (t : Text) : t.trim.trim = t.trim := by
  rw [trim, trim, trimStart_trimEnd]
  exact List.rdropWhile_idempotent isBlank _

theorem trim_map {f : CodePoint → CodePoint} (hf : ∀ c, isBlank (f c) = isBlank c) (t : Text) :
    trim (t.map f) = t.trim.map f := by
  have hcomp : isBlank ∘ f = isBlank := funext hf
  rw [trim, trim, trimEnd, trimEnd, trimStart, trimStart, List.dropWhile_map, hcomp, ← List.map_reverse,
    List.dropWhile_map, hcomp, List.map_reverse]

end Romanization.Text
