namespace Romanization.Machine

variable {σ ε ο : Type} (step : σ → ε → ο × σ)

def run (s : σ) : List ε → List ο × σ
  | [] => ([], s)
  | event :: events =>
    ((step s event).1 :: (run (step s event).2 events).1, (run (step s event).2 events).2)

theorem run_append (s : σ) (before after : List ε) :
    run step s (before ++ after) = ((run step s before).1 ++ (run step (run step s before).2 after).1,
      (run step (run step s before).2 after).2) := by
  induction before generalizing s with
  | nil => rfl
  | cons event before ih => rw [List.cons_append, run, ih, run, List.cons_append]

theorem length_run (s : σ) (events : List ε) : (run step s events).1.length = events.length := by
  induction events generalizing s with
  | nil => rfl
  | cons event events ih => rw [run, List.length_cons, ih, List.length_cons]

theorem run_getElem? (s : σ) (before : List ε) (event : ε) (after : List ε) :
    (run step s (before ++ event :: after)).1[before.length]? =
      some (step (run step s before).2 event).1 := by
  have hlength := length_run step s before
  rw [run_append, List.getElem?_append_right (Nat.le_of_eq hlength), hlength, Nat.sub_self]
  rfl

theorem run_eraseIdx {s : σ} {before : List ε} {event : ε}
    (h : (step (run step s before).2 event).2 = (run step s before).2) (after : List ε) :
    run step s (before ++ after) = ((run step s (before ++ event :: after)).1.eraseIdx before.length,
      (run step s (before ++ event :: after)).2) := by
  have hlength := length_run step s before
  rw [run_append, run_append, run, h, List.eraseIdx_append_of_length_le (Nat.le_of_eq hlength), hlength,
    Nat.sub_self]
  rfl

end Romanization.Machine
