import Mathlib.Data.List.Lex
import Mathlib.Data.List.Sort
import Romanization.Text.Basic

namespace Romanization.Text

theorem before_iff_lt {s t : Text} : s.before t ↔ s < t := by
  induction s generalizing t with
  | nil => cases t <;> simp [before]
  | cons a s ih =>
    cases t with
    | nil => simp [before]
    | cons b t => simp [before, ih, List.cons_lt_cons_iff]

theorem insertSorted_eq_orderedInsert (t : Text) (us : List Text) :
    insertSorted t us = us.orderedInsert (· ≤ ·) t := by
  induction us with
  | nil => rfl
  | cons u us ih =>
    by_cases h : u < t
    · simp [insertSorted, before_iff_lt, h, not_le_of_gt h, ih]
    · simp [insertSorted, before_iff_lt, h, le_of_not_gt h]

theorem sort_eq_insertionSort (ts : List Text) : sort ts = ts.insertionSort (· ≤ ·) := by
  induction ts with
  | nil => rfl
  | cons t ts ih =>
    rw [List.insertionSort_cons, ← ih, ← insertSorted_eq_orderedInsert]
    rfl

theorem sort_perm (ts : List Text) : (sort ts).Perm ts := by
  rw [sort_eq_insertionSort]
  exact List.perm_insertionSort _ ts

@[simp] theorem mem_sort {t : Text} {ts : List Text} : t ∈ sort ts ↔ t ∈ ts :=
  (sort_perm ts).mem_iff

theorem sort_eq_iff {ts us : List Text} : sort ts = us ↔ us.Perm ts ∧ us.Pairwise (· ≤ ·) := by
  have sorted : (sort ts).Pairwise (· ≤ ·) := by
    rw [sort_eq_insertionSort]
    exact List.pairwise_insertionSort _ ts
  constructor
  · rintro rfl
    exact ⟨sort_perm ts, sorted⟩
  · rintro ⟨hp, hs⟩
    exact ((sort_perm ts).trans hp.symm).eq_of_pairwise (fun _ _ _ _ => le_antisymm) sorted hs

theorem sort_eq_of_perm {ts us : List Text} (h : ts.Perm us) : sort ts = sort us :=
  sort_eq_iff.2 ⟨(sort_perm us).trans h.symm, (sort_eq_iff.1 rfl).2⟩

theorem pairwise_sort {ts : List Text} (h : ts.Nodup) : (sort ts).Pairwise (·.before ·) := by
  have hne : (sort ts).Pairwise (· ≠ ·) := (sort_perm ts).nodup_iff.2 h
  exact (sort_eq_iff.1 rfl).2.imp₂ (fun _ _ hle hne => before_iff_lt.2 (lt_of_le_of_ne hle hne)) hne

end Romanization.Text
