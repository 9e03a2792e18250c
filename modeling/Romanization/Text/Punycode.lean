import Romanization.Text.Basic

namespace Romanization.Text.Punycode

def digit (n : Nat) : CodePoint := if n < 26 then 0x61 + n else 0x16 + n

def threshold (bias place : Nat) : Nat := max 1 (min 26 (place - bias))

def number (bias place n : Nat) : Text :=
  let t := threshold bias place
  if n < t then [digit n]
  else digit (t + (n - t) % (36 - t)) :: number bias (place + 36) ((n - t) / (36 - t))
termination_by n
decreasing_by
  have : 1 ≤ threshold bias place := Nat.le_max_left ..
  have := Nat.div_le_self (n - threshold bias place) (36 - threshold bias place)
  omega

def biasOf (steps : Nat) : Nat :=
  if 455 < steps then 36 + biasOf (steps / 35) else 36 * steps / (steps + 38)

structure Writer where
  written : Text
  count : Nat
  steps : Nat
  bias : Nat

def Writer.put (w : Writer) (first : Bool) : Writer :=
  let damped := w.steps / if first then 700 else 2
  ⟨w.written ++ number w.bias 36 w.steps, w.count + 1, 0, biasOf (damped + damped / (w.count + 1))⟩

def Writer.walk (basic : Nat) (unit : CodePoint) (w : Writer) (c : CodePoint) : Writer :=
  if c < unit then { w with steps := w.steps + 1 }
  else if c = unit then w.put (w.count == basic)
  else w

def Writer.writeAll (basic : Nat) (t : Text) : (units : Text) → (next : Nat) → Writer → Writer
  | [], _, w => w
  | unit :: units, next, w =>
    let w := { w with steps := w.steps + (unit - next) * (w.count + 1) }
    let w := t.foldl (Writer.walk basic unit) w
    writeAll basic t units (unit + 1) { w with steps := w.steps + 1 }

def insertNew (c : CodePoint) : Text → Text
  | [] => [c]
  | d :: t => if c < d then c :: d :: t else if c = d then d :: t else d :: insertNew c t

def encode (t : Text) : Text :=
  let basic := t.filter (· < 0x80)
  let units := (t.filter (0x80 ≤ ·)).foldr insertNew []
  let lead := if basic.isEmpty then [] else basic ++ [0x2D]
  (Writer.writeAll basic.length t units 0x80 ⟨lead, basic.length, 0, 72⟩).written

end Romanization.Text.Punycode
