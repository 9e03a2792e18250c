import Romanization.Decimal.Binary64
import Romanization.Text.Basic

namespace Romanization.Binary64

structure Interval where
  low : Nat
  value : Nat
  high : Nat
  den : Nat
  closed : Bool

def interval (m : Nat) (e : Int) : Interval :=
  let below := if m = half ∧ -1074 < e then 1 else 2
  let unit := scaled 1 4 (-e)
  ⟨(4 * m - below) * unit.1, 4 * m * unit.1, (4 * m + 2) * unit.1, unit.2, m % 2 == 0⟩

def Interval.contains (i : Interval) (num den : Nat) : Bool :=
  let low := compare (i.low * den) (num * i.den)
  let high := compare (num * i.den) (i.high * den)
  (low == .lt || (i.closed && low == .eq)) && (high == .lt || (i.closed && high == .eq))

def log10 (num den : Nat) : Int :=
  if den ≤ num then (Nat.toDigits 10 (num / den)).length - 1
  else
    let d := (Nat.toDigits 10 (den / num)).length
    if den ≤ num * Nat.pow 10 (d - 1) then -((d : Int) - 1) else -(d : Int)

def gridPoint (n : Nat) (k : Int) : Nat × Nat :=
  if 0 ≤ k then (n * Nat.pow 10 k.toNat, 1) else (n, Nat.pow 10 (-k).toNat)

/-- Of the two points next to the value on the grid of step `10 ^ k`, the nearer that reads back; of
two equally near the even one. -/
def Interval.onGrid? (i : Interval) (k : Int) : Option Nat :=
  let step := gridPoint 1 k
  let below := i.value * step.2 / (i.den * step.1)
  let reads (n : Nat) : Bool := let p := gridPoint n k; i.contains p.1 p.2
  let twice := 2 * (i.value * step.2 % (i.den * step.1))
  let upNearer : Bool := i.den * step.1 < twice || (twice == i.den * step.1 && below % 2 == 1)
  match reads below, reads (below + 1) with
  | true, true => some (if upNearer then below + 1 else below)
  | true, false => some below
  | false, true => some (below + 1)
  | false, false => none

/-- The first grid with a point that reads back, from `k` on down; 17 digits are always enough. -/
def Interval.shortestFrom (i : Interval) : (grids : Nat) → Int → Nat × Int
  | 0, k => (0, k)
  | grids + 1, k =>
    match i.onGrid? k with
    | some n => (n, k)
    | none => i.shortestFrom grids (k - 1)

def stripZeros : (steps : Nat) → Nat → Int → Nat × Int
  | 0, n, k => (n, k)
  | steps + 1, n, k => if n % 10 = 0 then stripZeros steps (n / 10) (k + 1) else (n, k)

def shortest (m : Nat) (e : Int) : Nat × Int :=
  let i := interval m e
  let (n, k) := i.shortestFrom 18 (log10 i.value i.den)
  stripZeros 17 n k

structure Layout where
  leastPositional : Int
  greatestPositional : Int
  exponentDigits : Nat

def layout : Layout := ⟨-4, 15, 2⟩

def signed (negative : Bool) (t : Text) : Text := if negative then 0x2D :: t else t

def zeros (n : Nat) : Text := List.replicate n 0x30

def exponentText (l : Layout) (e : Int) : Text :=
  let digits := Text.ofNat e.natAbs
  0x65 :: (if e < 0 then 0x2D else 0x2B) :: zeros (l.exponentDigits - digits.length) ++ digits

def decimalText (l : Layout) (n : Nat) (k : Int) : Text :=
  let digits := Text.ofNat n
  let e : Int := k + digits.length - 1
  if e < l.leastPositional ∨ l.greatestPositional < e then
    let fraction := digits.drop 1
    digits.take 1 ++ (if fraction.isEmpty then [] else 0x2E :: fraction) ++ exponentText l e
  else if 0 ≤ k then digits ++ zeros k.toNat ++ ".0".codePoints
  else if e < 0 then "0.".codePoints ++ zeros (-e - 1).toNat ++ digits
  else digits.take (e + 1).toNat ++ 0x2E :: digits.drop (e + 1).toNat

def text : Binary64 → Text
  | nan => "nan".codePoints
  | infinite negative => signed negative "inf".codePoints
  | finite negative m e =>
    signed negative <|
      if m = 0 then "0.0".codePoints
      else
        let (n, k) := shortest m e
        decimalText layout n k

end Romanization.Binary64
