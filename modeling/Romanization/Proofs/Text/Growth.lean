import Mathlib.Algebra.Group.Int.Defs
import Mathlib.Algebra.Group.Nat.Defs
import Romanization.Proofs.Text.Buffer
import Romanization.Text.Encoding

namespace Romanization

namespace Encoding

def bytesOf (c : CodePoint) : Utf8.Bytes :=
  [c % 0x100, c / 0x100 % 0x100, c / 0x10000 % 0x100, c / 0x1000000]

theorem decode?_bytesOf_append {c : CodePoint} (h : c ≤ 0x10FFFF) (bytes : Utf8.Bytes) :
    (utf32 false).decode? (bytesOf c ++ bytes) = ((utf32 false).decode? bytes).map (c :: ·) := by
  have hvalue : (c / 0x1000000 * 0x100 + c / 0x10000 % 0x100) * 0x10000 +
      (c / 0x100 % 0x100 * 0x100 + c % 0x100) = c := by
    simp only [CodePoint] at *
    omega
  simp only [bytesOf, decode?, List.cons_append, List.nil_append, pairs?]
  cases pairs? false bytes with
  | none => rfl
  | some units =>
    have hc : ¬ 0x10FFFF < c := Nat.not_lt.2 h
    simp only [Bool.false_eq_true, if_false, Option.bind_eq_bind, Option.bind_some, Option.pure_def,
      points?, hvalue, hc]
    cases points? false units <;> rfl

theorem decode?_flatMap_bytesOf {t : Text} (h : ∀ c ∈ t, c ≤ 0x10FFFF) :
    (utf32 false).decode? (t.flatMap bytesOf) = some t := by
  induction t with
  | nil => rfl
  | cons c t ih =>
    obtain ⟨hc, ht⟩ := List.forall_mem_cons.1 h
    rw [List.flatMap_cons, decode?_bytesOf_append hc, ih ht]
    rfl

end Encoding

namespace Buffer

/-- What a capacity becomes that is doubled while it is less than `needed`, if that comes to an end. -/
inductive Doubles (needed : Nat) : (capacity room : Nat) → Prop
  | fits {capacity : Nat} : needed ≤ capacity → Doubles needed capacity capacity
  | double {capacity room : Nat} : capacity < needed → Doubles needed (capacity * 2) room →
      Doubles needed capacity room

def IsRoom (start needed room : Nat) : Prop :=
  ∃ j, room = start * 2 ^ j ∧ ∀ i, needed ≤ start * 2 ^ i ↔ j ≤ i

variable {start needed more capacity room : Nat}

theorem IsRoom.le (h : IsRoom start needed room) : needed ≤ room := by
  obtain ⟨j, rfl, hleast⟩ := h
  exact (hleast j).2 (Nat.le_refl j)

theorem IsRoom.unique {other : Nat} (h : IsRoom start needed room) (ho : IsRoom start needed other) :
    room = other := by
  obtain ⟨j, rfl, hj⟩ := h
  obtain ⟨k, rfl, hk⟩ := ho
  have hjk : j ≤ k := (hj k).1 ((hk k).2 (Nat.le_refl k))
  have hkj : k ≤ j := (hk j).1 ((hj j).2 (Nat.le_refl j))
  rw [Nat.le_antisymm hjk hkj]

theorem isRoom_of_le (h : needed ≤ start) : IsRoom start needed start := by
  refine ⟨0, by simp, fun i => iff_of_true ?_ (Nat.zero_le i)⟩
  exact Nat.le_trans h (Nat.le_mul_of_pos_right start (Nat.two_pow_pos i))

theorem Doubles.isRoom_of_small (h : Doubles needed capacity room) {j : Nat} (hc : capacity = start * 2 ^ j)
    (hsmall : ∀ i < j, start * 2 ^ i < needed) : IsRoom start needed room := by
  induction h generalizing j with
  | @fits capacity hfits =>
    refine ⟨j, hc, fun i => ⟨fun hi => ?_, fun hi => ?_⟩⟩
    · exact Nat.le_of_not_lt fun hlt => Nat.not_le.2 (hsmall i hlt) hi
    · calc
        needed ≤ start * 2 ^ j := hc ▸ hfits
        _ ≤ start * 2 ^ i := Nat.mul_le_mul_left _ (Nat.pow_le_pow_right (by decide) hi)
  | @double capacity room hlt _ ih =>
    refine ih (j := j + 1) (by rw [hc, Nat.pow_succ, Nat.mul_assoc]) fun i hi => ?_
    rcases Nat.lt_succ_iff_lt_or_eq.1 hi with hi | rfl
    · exact hsmall i hi
    · exact hc ▸ hlt

theorem IsRoom.of_doubles (h : IsRoom start needed capacity) (hle : needed ≤ more)
    (hd : Doubles more capacity room) : IsRoom start more room := by
  obtain ⟨j, hc, hleast⟩ := h
  refine hd.isRoom_of_small hc fun i hi => ?_
  have hsmall : ¬ needed ≤ start * 2 ^ i := fun hi' => absurd ((hleast i).1 hi') (Nat.not_le.2 hi)
  omega

theorem Doubles.le (h : Doubles needed capacity room) : capacity ≤ room := by
  induction h with
  | fits => exact Nat.le_refl _
  | double _ _ ih => omega

theorem doubles_enlarge {steps : Nat} (hpos : 0 < capacity) (hsteps : needed ≤ capacity + steps) :
    Doubles needed capacity (enlarge needed steps capacity) := by
  induction steps generalizing capacity with
  | zero => exact .fits hsteps
  | succ steps ih =>
    unfold enlarge
    split
    · next hlt => exact .double hlt (ih (by omega) (by omega))
    · next hge => exact .fits (Nat.le_of_not_lt hge)

theorem toList_reserve (b : Buffer) (needed : Nat) :
    (b.reserve needed).slots.toList =
      b.slots.toList ++ List.replicate ((b.reserve needed).capacity - b.capacity) 0 := by
  simp [reserve, capacity]

theorem doubles_reserve (b : Buffer) (needed : Nat) :
    Doubles needed b.capacity (b.reserve needed).capacity := by
  have hroom : (b.reserve needed).capacity = enlarge needed (needed - b.capacity) b.capacity := by
    have := le_enlarge needed (needed - b.capacity) b.capacity
    simp only [capacity, reserve, Array.size_append, Array.size_replicate] at *
    omega
  rw [hroom]
  exact doubles_enlarge b.nonempty (by omega)

structure Holds (start : Nat) (t : Text) (b : Buffer) : Prop where
  slots : b.slots.toList = t ++ List.replicate (b.capacity - t.length) 0
  length : b.length = t.length
  room : IsRoom start t.length b.capacity

variable {b : Buffer} {t : Text}

theorem holds_ofCapacity (n : Int) : Holds (max 1 n.toNat) [] (ofCapacity n) where
  slots := by simp [ofCapacity, capacity]
  length := rfl
  room := by simpa [ofCapacity, capacity] using isRoom_of_le (Nat.zero_le (max 1 n.toNat))

theorem Holds.text_eq (h : Holds start t b) : b.text = t := by
  rw [text, h.slots, h.length, List.take_left]

theorem Holds.capacity_eq (h : Holds start t b) (hle : t.length ≤ start) : b.capacity = start :=
  h.room.unique (isRoom_of_le hle)

theorem Holds.append (h : Holds start t b) (fragment : Text) :
    Holds start (t ++ fragment) (b.append fragment) := by
  have hlength : b.length + fragment.length = (t ++ fragment).length := by
    rw [h.length, List.length_append]
  have hcapacity : (b.append fragment).capacity = (b.reserve (t ++ fragment).length).capacity := by
    rw [← hlength]
    exact size_write _ _ _
  have hdoubles := doubles_reserve b (t ++ fragment).length
  rw [← hcapacity] at hdoubles
  have hroom := h.room.of_doubles (by simp) hdoubles
  refine ⟨?_, hlength, hroom⟩
  have hfits : b.length + fragment.length ≤ (b.reserve (b.length + fragment.length)).slots.size :=
    needed_le_reserve b _
  have hblank : b.capacity - t.length + ((b.append fragment).capacity - b.capacity) =
      (b.append fragment).capacity - t.length := by
    have hheld := h.room.le
    have hgrown := hdoubles.le
    omega
  change (write (b.reserve (b.length + fragment.length)).slots b.length fragment).toList = _
  rw [toList_write _ _ _ hfits, toList_reserve, hlength, ← hcapacity, h.length, h.slots]
  rw [List.append_assoc t, List.replicate_append_replicate, hblank, List.take_left, List.length_append,
    ← List.drop_drop, List.drop_left, List.drop_replicate, Nat.sub_sub]

theorem Holds.foldl_append (h : Holds start t b) (fragments : List Text) :
    Holds start (t ++ fragments.flatten) (fragments.foldl Buffer.append b) := by
  induction fragments generalizing t b with
  | nil => simpa using h
  | cons fragment fragments ih =>
    rw [List.flatten_cons, ← List.append_assoc]
    exact ih (h.append fragment)

theorem Holds.unique {other : Buffer} (h : Holds start t b) (ho : Holds start t other) : b = other := by
  have hcapacity := h.room.unique ho.room
  have hslots := h.slots
  rw [hcapacity, ← ho.slots, Array.toList_inj] at hslots
  obtain ⟨slots, length, _, _⟩ := b
  obtain ⟨slots', length', _, _⟩ := other
  have hlength := h.length.trans ho.length.symm
  simp only at hslots hlength
  subst hslots hlength
  rfl

/-- Whatever room it began with, a buffer holds the fragments that were appended, one after the other, in the
least doubling of that room in which they fit, and it is the same buffer however they were cut. The doubling
comes to an end at every size that is asked for. Written out in four bytes each, the slots are read back as
the fragments. -/
theorem appended_in_least_doubling (n : Int) (fragments : List Text) :
    let b := fragments.foldl append (ofCapacity n)
    b.text = fragments.flatten ∧ b.length = fragments.flatten.length ∧ b.length ≤ b.capacity ∧
      (∃ j : Nat, (b.capacity : Int) = max 1 n * 2 ^ j ∧
        ∀ i : Nat, (b.length : Int) ≤ max 1 n * 2 ^ i ↔ j ≤ i) ∧
      (∀ others : List Text, others.flatten = fragments.flatten →
        others.foldl append (ofCapacity n) = b) ∧
      (∀ needed, Doubles needed b.capacity (b.reserve needed).capacity) ∧
      ((∀ c ∈ fragments.flatten, c ≤ 0x10FFFF) →
        (Encoding.utf32 false).decode? ((b.slots.toList.take b.length).flatMap Encoding.bytesOf) =
          some fragments.flatten) := by
  intro b
  have holds : ∀ fragments : List Text, Holds (max 1 n.toNat) fragments.flatten
      (fragments.foldl append (ofCapacity n)) := fun fragments => (holds_ofCapacity n).foldl_append fragments
  have hb : Holds (max 1 n.toNat) fragments.flatten b := holds fragments
  have htext : b.text = fragments.flatten := hb.text_eq
  refine ⟨htext, hb.length, b.fits, ?_, fun others ho => ?_, doubles_reserve b, fun hpoints => ?_⟩
  · obtain ⟨j, hcapacity, hleast⟩ := hb.room
    have hstart : ((max 1 n.toNat : Nat) : Int) = max 1 n := by omega
    refine ⟨j, ?_, fun i => ?_⟩
    · rw [hcapacity, Int.natCast_mul, hstart, Int.natCast_pow]
      rfl
    · rw [← hleast i, ← hb.length, ← hstart]
      exact_mod_cast Iff.rfl
  · exact Holds.unique (ho ▸ holds others) hb
  · rw [← Encoding.decode?_flatMap_bytesOf hpoints, ← htext]
    rfl

theorem appended_in_least_doubling_surrogates :
    let fragments : List Text := ["ab".codePoints, [], [0x1F600, 0xD83D], [0xDE00]]
    let b := fragments.foldl append (ofCapacity (-3))
    b.capacity = 8 ∧ [fragments.flatten].foldl append (ofCapacity (-3)) = b ∧
      (Encoding.utf32 false).decode? ((b.slots.toList.take b.length).flatMap Encoding.bytesOf) =
        some [0x61, 0x62, 0x1F600, 0xD83D, 0xDE00] := by
  intro fragments b
  obtain ⟨-, -, -, -, cuts, -, bytes⟩ := appended_in_least_doubling (-3) fragments
  exact ⟨by decide, cuts _ (by simp), bytes (by decide)⟩

end Buffer

end Romanization
