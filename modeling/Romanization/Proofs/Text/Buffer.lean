import Romanization.Romanizer

namespace Romanization

namespace Buffer

theorem toList_write (slots : Array CodePoint) (start : Nat) (t : Text)
    (h : start + t.length ≤ slots.size) :
    (write slots start t).toList =
      slots.toList.take start ++ t ++ slots.toList.drop (start + t.length) := by
  induction t generalizing slots start with
  | nil => simp [write]
  | cons c t ih =>
    rw [List.length_cons] at h
    rw [write, ih _ (start + 1) (by simp; omega), Array.toList_setIfInBounds, List.take_add_one,
      List.take_set_of_le (Nat.le_refl _), List.getElem?_set_self (by simp; omega),
      List.drop_set_of_lt (by omega), List.length_cons, Nat.add_right_comm, Nat.add_assoc]
    simp

@[simp] theorem text_reserve (b : Buffer) (needed : Nat) : (b.reserve needed).text = b.text := by
  have := b.fits
  simp [text, reserve, List.take_append_of_le_length, this]

@[simp] theorem text_append (b : Buffer) (fragment : Text) :
    (b.append fragment).text = b.text ++ fragment := by
  have hroom := needed_le_reserve b (b.length + fragment.length)
  have hstart : ((b.reserve (b.length + fragment.length)).slots.toList.take b.length).length = b.length :=
    List.length_take_of_le (b.reserve (b.length + fragment.length)).fits
  rw [← text_reserve b (b.length + fragment.length)]
  change (write (b.reserve (b.length + fragment.length)).slots b.length fragment).toList.take
    (b.length + fragment.length) = _
  rw [toList_write _ _ _ hroom]
  exact List.take_left' (by rw [List.length_append, hstart])

end Buffer

theorem Romanizer.text_joined (table : RuleTable) (inputLength : Nat) (clusters : List Cluster) :
    (joined table inputLength clusters).text = clusters.flatMap Cluster.output := by
  suffices ∀ b : Buffer, (clusters.foldl (fun b c => b.append c.output) b).text =
      b.text ++ clusters.flatMap Cluster.output by
    exact this (Buffer.forInput inputLength table.maxFragmentLength)
  induction clusters with
  | nil => simp
  | cons c cs ih => simp [ih]

end Romanization
