import Romanization.Json.Basic
import Romanization.Text.Basic

/-! Reading JSON. Beyond the standard, `NaN`, `Infinity` and `-Infinity` are numbers, a surrogate may
stand alone where it is written as an escape, and a repeated key keeps its first place and its last
value. Integers have no more than `maxDigits` digits, and values are nested no deeper than the caller
allows; of several obstructions the first in the text counts. -/

namespace Romanization.Json

inductive Obstruction
  | malformed
  | longInteger (digits : Nat)
  | deepNesting
  deriving DecidableEq, Repr

def maxDigits : Nat := 4300

def isJsonBlank (c : CodePoint) : Bool := c == 0x20 || c == 0x09 || c == 0x0A || c == 0x0D

def skipBlanks (t : Text) : Text := t.dropWhile isJsonBlank

def hexUnit? (a b c d : CodePoint) : Option Nat :=
  return (((← hexValue? a) * 16 + (← hexValue? b)) * 16 + (← hexValue? c)) * 16 + (← hexValue? d)

def shortEscape? (c : CodePoint) : Option CodePoint :=
  if c = 0x22 ∨ c = 0x5C ∨ c = 0x2F then some c
  else if c = 0x62 then some 0x08
  else if c = 0x66 then some 0x0C
  else if c = 0x6E then some 0x0A
  else if c = 0x72 then some 0x0D
  else if c = 0x74 then some 0x09
  else none

/-- Reads on to the closing quote. `done` holds what was read, from its end, and `half` the unit just
before if an escape wrote it: a second escape may complete a surrogate. -/
def readString (half : Option Nat) (done : Text) : Text → Except Obstruction (Text × Text)
  | [] => .error .malformed
  | 0x22 :: t => .ok (done.reverse, t)
  | 0x5C :: 0x75 :: a :: b :: c :: d :: t =>
    match hexUnit? a b c d with
    | none => .error .malformed
    | some unit =>
      match half.bind (CodePoint.joined? · unit) with
      | some whole => readString none (whole :: done.tail) t
      | none => readString (some unit) (unit :: done) t
  | 0x5C :: c :: t =>
    match shortEscape? c with
    | none => .error .malformed
    | some c => readString none (c :: done) t
  | c :: t => if c < 0x20 then .error .malformed else readString none (c :: done) t

def readFraction : Text → Option Text × Text
  | 0x2E :: t =>
    match t.takeWhile isDigit with
    | [] => (none, 0x2E :: t)
    | digits => (some digits, t.dropWhile isDigit)
  | t => (none, t)

def readSign : Text → Bool × Text
  | 0x2D :: t => (true, t)
  | 0x2B :: t => (false, t)
  | t => (false, t)

def readExponent : Text → Option Int × Text
  | [] => (none, [])
  | c :: t =>
    if c = 0x65 ∨ c = 0x45 then
      let (negative, t') := readSign t
      match t'.takeWhile isDigit with
      | [] => (none, c :: t)
      | digits =>
        let n := digitsValue digits
        (some (if negative then -(n : Int) else n), t'.dropWhile isDigit)
    else (none, c :: t)

def ofDigits (negative : Bool) (digits : Text) : Except Obstruction Json :=
  if maxDigits < digits.length then .error (.longInteger digits.length)
  else .ok (.int (if negative then -(digitsValue digits : Int) else digitsValue digits))

def readUnsigned (negative : Bool) (t : Text) : Except Obstruction (Json × Text) :=
  match t.takeWhile isDigit with
  | [] =>
    if t.startsWith "Infinity".codePoints then .ok (.float (.infinite negative), t.drop 8)
    else .error .malformed
  | first :: more =>
    let whole := if first = 0x30 then [first] else first :: more
    let (fraction, rest) := readFraction (t.drop whole.length)
    let (exponent, rest) := readExponent rest
    if fraction.isNone && exponent.isNone then (ofDigits negative whole).map (·, rest)
    else
      let shift : Int := (fraction.getD []).length
      let n := digitsValue (whole ++ fraction.getD [])
      .ok (.float (.ofDecimal negative n (exponent.getD 0 - shift)), rest)

def readNumber : Text → Except Obstruction (Json × Text)
  | 0x2D :: t => readUnsigned true t
  | t => readUnsigned false t

def readWord (t : Text) : Except Obstruction (Json × Text) :=
  if t.startsWith "null".codePoints then .ok (.null, t.drop 4)
  else if t.startsWith "true".codePoints then .ok (.bool true, t.drop 4)
  else if t.startsWith "false".codePoints then .ok (.bool false, t.drop 5)
  else if t.startsWith "NaN".codePoints then .ok (.float .nan, t.drop 3)
  else readNumber t

mutual

def readValue : (fuel depth : Nat) → Text → Except Obstruction (Json × Text)
  | 0, _, _ => .error .malformed
  | _ + 1, _, 0x22 :: t => do
    let (s, t) ← readString none [] t
    return (.string s, t)
  | _ + 1, 0, 0x5B :: _ => .error .deepNesting
  | _ + 1, 0, 0x7B :: _ => .error .deepNesting
  | fuel + 1, depth + 1, 0x5B :: t =>
    match skipBlanks t with
    | 0x5D :: t => .ok (.array [], t)
    | t => do
      let (items, t) ← readItems fuel depth t
      return (.array items, t)
  | fuel + 1, depth + 1, 0x7B :: t =>
    match skipBlanks t with
    | 0x7D :: t => .ok (.object [], t)
    | t => do
      let (members, t) ← readMembers fuel depth t
      return (.object (Dictionary.ofList members), t)
  | _ + 1, _, t => readWord t

def readItems : (fuel depth : Nat) → Text → Except Obstruction (List Json × Text)
  | 0, _, _ => .error .malformed
  | fuel + 1, depth, t => do
    let (v, t) ← readValue fuel depth t
    match skipBlanks t with
    | 0x5D :: t => return ([v], t)
    | 0x2C :: t =>
      let (vs, t) ← readItems fuel depth (skipBlanks t)
      return (v :: vs, t)
    | _ => .error .malformed

def readMembers : (fuel depth : Nat) → Text → Except Obstruction (List (Text × Json) × Text)
  | fuel + 1, depth, 0x22 :: t => do
    let (key, t) ← readString none [] t
    match skipBlanks t with
    | 0x3A :: t =>
      let (v, t) ← readValue fuel depth (skipBlanks t)
      match skipBlanks t with
      | 0x7D :: t => return ([(key, v)], t)
      | 0x2C :: t =>
        let (members, t) ← readMembers fuel depth (skipBlanks t)
        return ((key, v) :: members, t)
      | _ => .error .malformed
    | _ => .error .malformed
  | _, _, _ => .error .malformed

end

/-- One value with blanks around it, of at most `depth` lists and objects within each other. Every
second step of the reader takes a code point, which bounds their number. -/
def read (depth : Nat) (t : Text) : Except Obstruction Json := do
  let (v, rest) ← readValue (2 * t.length + 2) depth (skipBlanks t)
  if (skipBlanks rest).isEmpty then return v else .error .malformed

end Romanization.Json
