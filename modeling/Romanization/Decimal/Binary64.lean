import Romanization.CodePoint

namespace Romanization

inductive Binary64
  | nan
  | infinite (negative : Bool)
  | finite (negative : Bool) (mantissa : Nat) (exponent : Int)
  deriving DecidableEq, Repr

namespace Binary64

def nearest (num den : Nat) : Nat :=
  let q := num / den
  let twice := 2 * (num % den)
  if den < twice ∨ (twice = den ∧ q % 2 = 1) then q + 1 else q

def scaled (num den : Nat) (e : Int) : Nat × Nat :=
  if 0 ≤ e then (num, den * Nat.pow 2 e.toNat) else (num * Nat.pow 2 (-e).toNat, den)

def bound : Nat := 0x20000000000000

def half : Nat := 0x10000000000000

/-- The number nearest to a positive fraction: a mantissa of 53 bits, or fewer where the exponent is
the least one. -/
def ofRatio (negative : Bool) (num den : Nat) : Binary64 :=
  let low := max ((num.log2 : Int) - den.log2 - 53) (-1074)
  let quotient := scaled num den low
  let e := if quotient.1 / quotient.2 < bound then low else low + 1
  let quotient := scaled num den e
  let m := nearest quotient.1 quotient.2
  let (m, e) := if m = bound then (half, e + 1) else (m, e)
  if 971 < e then infinite negative else finite negative m e

def ofDecimal (negative : Bool) (digits : Nat) (e : Int) : Binary64 :=
  let size : Int := (Nat.toDigits 10 digits).length
  if digits = 0 ∨ size + e < -400 then finite negative 0 (-1074)
  else if 400 < size + e then infinite negative
  else if 0 ≤ e then ofRatio negative (digits * Nat.pow 10 e.toNat) 1
  else ofRatio negative digits (Nat.pow 10 (-e).toNat)

def isZero : Binary64 → Bool
  | finite _ m _ => m == 0
  | _ => false

def toInt? : Binary64 → Option Int
  | finite negative m e =>
    let magnitude : Option Nat :=
      if 0 ≤ e then some (m * Nat.pow 2 e.toNat)
      else if m % Nat.pow 2 (-e).toNat = 0 then some (m / Nat.pow 2 (-e).toNat)
      else none
    magnitude.map fun (n : Nat) => if negative then -(n : Int) else n
  | _ => none

end Romanization.Binary64
