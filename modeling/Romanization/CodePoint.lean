/-! Code points and texts. A text is a list of code points, lone surrogates included, so that every
offset and every length counts code points. -/

namespace Romanization

abbrev CodePoint := Nat

namespace CodePoint

def within (c : CodePoint) (spans : List (CodePoint × CodePoint)) : Bool :=
  spans.any fun (first, last) => first ≤ c && c ≤ last

def isHighSurrogate (c : CodePoint) : Bool := 0xD800 ≤ c && c ≤ 0xDBFF

def isLowSurrogate (c : CodePoint) : Bool := 0xDC00 ≤ c && c ≤ 0xDFFF

def isSurrogate (c : CodePoint) : Bool := 0xD800 ≤ c && c ≤ 0xDFFF

def joined? (high low : Nat) : Option CodePoint :=
  if isHighSurrogate high && isLowSurrogate low then
    some (0x10000 + (high - 0xD800) * 0x400 + (low - 0xDC00))
  else none

end CodePoint

abbrev Text := List CodePoint

def isDigit (c : CodePoint) : Bool := 0x30 ≤ c && c ≤ 0x39

def digitsValue (digits : Text) : Nat := digits.foldl (fun n c => n * 10 + (c - 0x30)) 0

def hexValue? (c : CodePoint) : Option Nat :=
  if isDigit c then some (c - 0x30)
  else if 0x61 ≤ c ∧ c ≤ 0x66 then some (c - 0x57)
  else if 0x41 ≤ c ∧ c ≤ 0x46 then some (c - 0x37)
  else none

end Romanization

def String.codePoints (s : String) : Romanization.Text := s.toList.map Char.toNat
