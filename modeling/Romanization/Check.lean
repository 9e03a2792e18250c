import Romanization.Decimal.Integer
import Romanization.Json.Writable
import Romanization.Text.Case

namespace Romanization

inductive FaultKind
  | missing
  | jsonInvalid
  | notAnObject
  | notText
  | loneSurrogate
  | tooShort
  | notACase
  | notABool
  | unreadableBool
  | notAnInt
  | unreadableInt
  | oversizedInt
  | fractionalInt
  | infiniteInt
  deriving DecidableEq, Repr

def FaultKind.name : FaultKind → Text
  | .missing => "missing".codePoints
  | .jsonInvalid => "json_invalid".codePoints
  | .notAnObject => "model_attributes_type".codePoints
  | .notText => "string_type".codePoints
  | .loneSurrogate => "string_unicode".codePoints
  | .tooShort => "string_too_short".codePoints
  | .notACase => "literal_error".codePoints
  | .notABool => "bool_type".codePoints
  | .unreadableBool => "bool_parsing".codePoints
  | .notAnInt => "int_type".codePoints
  | .unreadableInt => "int_parsing".codePoints
  | .oversizedInt => "int_parsing_size".codePoints
  | .fractionalInt => "int_from_float".codePoints
  | .infiniteInt => "finite_number".codePoints

structure Fault where
  kind : FaultKind
  place : List Text
  value : Json

abbrev Check (α : Type) := Except (List Fault) α

namespace Check

variable {α β : Type}

def pass (a : α) : Check α := .ok a

def also (f : Check (α → β)) (x : Check α) : Check β :=
  match f, x with
  | .ok f, .ok a => .ok (f a)
  | .ok _, .error faults => .error faults
  | .error faults, .ok _ => .error faults
  | .error faults, .error more => .error (faults ++ more)

def placed (place : List Text) (read : Json → Except FaultKind α) (v : Json) : Check α :=
  match read v with
  | .ok a => .ok a
  | .error kind => .error [⟨kind, place, v⟩]

end Check

namespace Json

def toText : Json → Except FaultKind Text
  | string t => .ok t
  | _ => .error .notText

def toTextOrNull : Json → Except FaultKind (Option Text)
  | null => .ok none
  | v => (toText v).map some

def whole (t : Text) : Except FaultKind Text :=
  if isWhole t then .ok t else .error .loneSurrogate

def toNonemptyText (v : Json) : Except FaultKind Text := do
  let t ← whole (← toText v)
  if t.isEmpty then .error .tooShort else .ok t

def toCase : Json → Except FaultKind CaseMode
  | string t => do
    match CaseMode.ofName? (← whole t) with
    | some mode => .ok mode
    | none => .error .notACase
  | _ => .error .notACase

def toCaseOrNull : Json → Except FaultKind (Option CaseMode)
  | null => .ok none
  | v => (toCase v).map some

def trueWords : List String := ["true", "1", "yes", "on", "y", "t"]

def falseWords : List String := ["false", "0", "no", "off", "n", "f"]

def wordBound : Int := 0x8000000000000000

def wordOfFloat (x : Binary64) : Except FaultKind Int :=
  match x, x.toInt? with
  | _, some n => if -wordBound < n ∧ n < wordBound then .ok n else .error .oversizedInt
  | .finite .., none => .error .fractionalInt
  | _, none => .error .infiniteInt

/-- One and zero; another integer is no truth value that can be read, or none at all if it has more
than 64 bits. -/
def boolOfInt (n : Int) : Except FaultKind Bool :=
  if n = 1 then .ok true else if n = 0 then .ok false
  else if -wordBound ≤ n ∧ n < wordBound then .error .unreadableBool
  else .error .notABool

def toBool : Json → Except FaultKind Bool
  | bool b => .ok b
  | int n => boolOfInt n
  | float x =>
    match wordOfFloat x with
    | .ok n => boolOfInt n
    | .error _ => .error .notABool
  | string t => do
    let word := (← whole t).lower
    if (trueWords.map String.codePoints).contains word then .ok true
    else if (falseWords.map String.codePoints).contains word then .ok false
    else .error .unreadableBool
  | _ => .error .notABool

def toInt : Json → Except FaultKind Int
  | bool b => .ok (if b then 1 else 0)
  | int n => .ok n
  | float x => wordOfFloat x
  | string t => do
    match Integer.ofText (← whole t) with
    | .ok n => .ok n
    | .error .tooLong => .error .oversizedInt
    | .error .unreadable => .error .unreadableInt
  | _ => .error .notAnInt

end Romanization.Json
