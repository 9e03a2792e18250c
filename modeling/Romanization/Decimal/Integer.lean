import Romanization.Text.Blank

/-! Integers in letters. The plain form is a minus or nothing and digits without a leading zero. Around
it there may be blanks, before its digits a plus and zeros, in it single underscores, and after it a
fraction of zeros. -/

namespace Romanization.Integer

inductive Fault
  | unreadable
  | tooLong
  deriving DecidableEq, Repr

def maxLength : Nat := 4300

def minus : Text → Bool × Text
  | 0x2D :: t => (true, t)
  | t => (false, t)

def ofPlain (t : Text) : Except Fault Int :=
  let (negative, t) := minus t
  let digits := t.takeWhile isDigit
  let leadingZero := digits.head? == some 0x30
  if !leadingZero && maxLength < digits.length then .error .tooLong
  else if digits.isEmpty || digits.length < t.length || (leadingZero && 1 < digits.length) then
    .error .unreadable
  else .ok (if negative then -(digitsValue digits : Int) else digitsValue digits)

/-- Blanks around a number, those of the Unicode property and no separators of data. -/
def isNumberBlank (c : CodePoint) : Bool := isBlank c && !(0x1C ≤ c && c ≤ 0x1F)

def trimmed (t : Text) : Text :=
  ((t.dropWhile isNumberBlank).reverse.dropWhile isNumberBlank).reverse

def afterSign? : Text → Option (Bool × Text)
  | 0x2B :: 0x2D :: _ => none
  | 0x2B :: t => some (false, t)
  | t => some (minus t)

/-- What is left after a zero and the zeros and underscores that follow it: a minus or the digits, or one
unit before a point or the end. -/
def afterZero (last : CodePoint) : Text → Option Text
  | [] => some [last]
  | c :: t =>
    if c = 0x30 ∨ c = 0x5F then afterZero c t
    else if isDigit c ∨ c = 0x2D then some (c :: t)
    else if c = 0x2E then some (last :: c :: t)
    else none

def withoutZeros? : Text → Option Text
  | [] => none
  | c :: t =>
    if c = 0x30 then afterZero c t
    else if isDigit c then some (c :: t)
    else none

def withoutFraction : Text → Text
  | [] => []
  | 0x2E :: 0x30 :: t => if t.all (· == 0x30) then [] else 0x2E :: 0x30 :: t
  | c :: t => c :: withoutFraction t

def doubled (c : CodePoint) : Text → Bool
  | a :: b :: t => (a == c && b == c) || doubled c (b :: t)
  | _ => false

def withoutUnderscores (t : Text) : Text :=
  if t.head? == some 0x5F || t.getLast? == some 0x5F || doubled 0x5F t then t
  else t.filter (· != 0x5F)

def plain? (t : Text) : Option Text := do
  let (negative, t) ← afterSign? (trimmed t)
  let t := withoutUnderscores (withoutFraction (← withoutZeros? t))
  return if negative then 0x2D :: t else t

/-- Only a text that has the plain form from the start can be too long. -/
def ofText (t : Text) : Except Fault Int :=
  match ofPlain t, plain? t with
  | .error .unreadable, some t => (ofPlain t).mapError fun _ => .unreadable
  | outcome, _ => outcome

end Romanization.Integer
