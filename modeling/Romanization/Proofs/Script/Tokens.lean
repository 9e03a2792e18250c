import Mathlib.Data.List.TakeWhile
import Romanization.Script.Run

namespace Romanization

namespace CodePoint

variable {c : CodePoint} {spans others : List (CodePoint × CodePoint)}

theorem within_iff : c.within spans ↔ ∃ x ∈ spans, x.1 ≤ c ∧ c ≤ x.2 := by
  simp [within]

theorem not_within (apart : ∀ x ∈ spans, ∀ y ∈ others, x.2 < y.1 ∨ y.2 < x.1)
    (h : c.within spans) : ¬ c.within others := by
  intro ho
  obtain ⟨x, hx, hlx, hxu⟩ := within_iff.1 h
  obtain ⟨y, hy, hly, hyu⟩ := within_iff.1 ho
  cases apart x hx y hy with
  | inl hlt => exact Nat.lt_irrefl _ (Nat.lt_of_lt_of_le hlt (Nat.le_trans hly hxu))
  | inr hlt => exact Nat.lt_irrefl _ (Nat.lt_of_lt_of_le hlt (Nat.le_trans hlx hyu))

end CodePoint

namespace Script

theorem spans_apart {s u : Script} (h : s ≠ u) :
    ∀ x ∈ s.spans, ∀ y ∈ u.spans, x.2 < y.1 ∨ y.2 < x.1 := by
  revert h
  cases s <;> cases u <;> decide

theorem eq_of_contains {s u : Script} {c : CodePoint} (hs : s.contains c) (hu : u.contains c) :
    s = u :=
  Decidable.byContradiction fun h => CodePoint.not_within (spans_apart h) hs hu

theorem mem_all (s : Script) : s ∈ all := by cases s <;> decide

theorem name_injective {s u : Script} (h : s.name = u.name) : s = u := by
  revert h
  cases s <;> cases u <;> decide

theorem ofCodePoint?_eq_some_iff {s : Script} {c : CodePoint} :
    ofCodePoint? c = some s ↔ s.contains c := by
  constructor
  · intro h
    exact List.find?_some (p := fun s => contains s c) h
  · intro h
    cases hf : ofCodePoint? c with
    | none => exact absurd h (List.find?_eq_none.1 hf s (mem_all s))
    | some u =>
      have hu : u.contains c := List.find?_some (p := fun s => contains s c) hf
      rw [eq_of_contains h hu]

def joins (c d : CodePoint) : Bool :=
  match ofCodePoint? c with
  | some s => s.contains d
  | none => (ofCodePoint? d).isNone

theorem joins_iff {c d : CodePoint} : joins c d ↔ ofCodePoint? d = ofCodePoint? c := by
  unfold joins
  cases h : ofCodePoint? c with
  | some s => exact ofCodePoint?_eq_some_iff.symm
  | none => simp

end Script

namespace Text

def tokens : Text → List Text
  | [] => []
  | c :: t => (c :: t.takeWhile (Script.joins c)) :: tokens (t.dropWhile (Script.joins c))
termination_by t => t.length
decreasing_by
  have := (List.dropWhile_sublist (Script.joins c) (l := t)).length_le
  simp only [List.length_cons]
  omega

theorem ofCodePoint?_of_mem_token {c d : CodePoint} {t : Text}
    (h : d ∈ c :: t.takeWhile (Script.joins c)) :
    Script.ofCodePoint? d = Script.ofCodePoint? c := by
  rcases List.mem_cons.1 h with rfl | h
  · rfl
  · exact Script.joins_iff.1 (List.mem_takeWhile_imp h)

theorem ofCodePoint?_after_token {c d : CodePoint} {t rest : Text}
    (h : t.dropWhile (Script.joins c) = d :: rest) :
    Script.ofCodePoint? d ≠ Script.ofCodePoint? c := by
  have hd : Script.joins c d = false := by
    have := List.head?_dropWhile_not (Script.joins c) t
    rw [h] at this
    simpa using this
  intro he
  rw [Script.joins_iff.2 he] at hd
  cases hd

theorem ofText?_eq {c : CodePoint} {t : Text}
    (h : ∀ d ∈ c :: t, Script.ofCodePoint? d = Script.ofCodePoint? c) :
    Script.ofText? (c :: t) = Script.ofCodePoint? c := by
  have hany : ∀ s : Script, (c :: t).any s.contains = s.contains c := by
    intro s
    rw [Bool.eq_iff_iff, List.any_eq_true]
    constructor
    · rintro ⟨d, hd, hs⟩
      rw [← Script.ofCodePoint?_eq_some_iff] at hs ⊢
      rw [← h d hd, hs]
    · exact fun hs => ⟨c, List.mem_cons_self, hs⟩
  simp only [Script.ofText?, Script.ofCodePoint?, hany]

theorem ofText?_token (c : CodePoint) (t : Text) :
    Script.ofText? (c :: t.takeWhile (Script.joins c)) = Script.ofCodePoint? c :=
  ofText?_eq fun _ h => ofCodePoint?_of_mem_token h

end Romanization.Text
