import Romanization.CodePoint

/-! A growable array of code points. It starts with a guess of its size and doubles when a fragment
does not fit, so that what was written before stays where it is. -/

namespace Romanization

structure Buffer where
  slots : Array CodePoint
  length : Nat
  fits : length ≤ slots.size
  nonempty : 0 < slots.size

namespace Buffer

def capacity (b : Buffer) : Nat := b.slots.size

def ofCapacity (n : Int) : Buffer where
  slots := Array.replicate (max 1 n.toNat) 0
  length := 0
  fits := Nat.zero_le _
  nonempty := by simp only [Array.size_replicate]; omega

def forInput (inputLength maxFragmentLength : Int) : Buffer :=
  ofCapacity (inputLength * max 1 maxFragmentLength)

def enlarge (needed : Nat) : (steps : Nat) → (capacity : Nat) → Nat
  | 0, capacity => capacity
  | steps + 1, capacity =>
    if capacity < needed then enlarge needed steps (capacity * 2) else capacity

theorem le_enlarge (needed steps capacity : Nat) : capacity ≤ enlarge needed steps capacity := by
  induction steps generalizing capacity with
  | zero => exact Nat.le_refl _
  | succ steps ih =>
    unfold enlarge
    split
    · have := ih (capacity * 2)
      omega
    · exact Nat.le_refl _

theorem needed_le_enlarge (needed steps capacity : Nat) (hc : 0 < capacity)
    (hs : needed ≤ capacity + steps) : needed ≤ enlarge needed steps capacity := by
  induction steps generalizing capacity with
  | zero => exact hs
  | succ steps ih =>
    unfold enlarge
    split
    · exact ih (capacity * 2) (by omega) (by omega)
    · omega

def reserve (b : Buffer) (needed : Nat) : Buffer :=
  let more := enlarge needed (needed - b.capacity) b.capacity - b.capacity
  { slots := b.slots ++ Array.replicate more 0
    length := b.length
    fits := by
      have := b.fits
      simp only [Array.size_append]
      omega
    nonempty := by
      have := b.nonempty
      simp only [Array.size_append]
      omega }

theorem needed_le_reserve (b : Buffer) (needed : Nat) : needed ≤ (b.reserve needed).capacity := by
  have hn := needed_le_enlarge needed (needed - b.capacity) b.capacity b.nonempty (by omega)
  have hc := le_enlarge needed (needed - b.capacity) b.capacity
  simp only [capacity, reserve, Array.size_append, Array.size_replicate] at *
  omega

def write (slots : Array CodePoint) (start : Nat) : Text → Array CodePoint
  | [] => slots
  | c :: t => write (slots.setIfInBounds start c) (start + 1) t

@[simp] theorem size_write (slots : Array CodePoint) (start : Nat) (t : Text) :
    (write slots start t).size = slots.size := by
  induction t generalizing slots start with
  | nil => rfl
  | cons c t ih => simp [write, ih]

def append (b : Buffer) (fragment : Text) : Buffer :=
  let stop := b.length + fragment.length
  let roomy := b.reserve stop
  { slots := write roomy.slots roomy.length fragment
    length := stop
    fits := by
      have := needed_le_reserve b stop
      simp only [size_write]
      exact this
    nonempty := by
      have := roomy.nonempty
      simpa using this }

def text (b : Buffer) : Text := b.slots.toList.take b.length

end Romanization.Buffer
