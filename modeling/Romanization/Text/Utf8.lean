import Romanization.CodePoint

namespace Romanization.Utf8

abbrev Bytes := List Nat

def encodePoint (c : CodePoint) : Bytes :=
  if c < 0x80 then [c]
  else if c < 0x800 then [0xC0 + c / 0x40, 0x80 + c % 0x40]
  else if c < 0x10000 then [0xE0 + c / 0x1000, 0x80 + c / 0x40 % 0x40, 0x80 + c % 0x40]
  else [0xF0 + c / 0x40000, 0x80 + c / 0x1000 % 0x40, 0x80 + c / 0x40 % 0x40, 0x80 + c % 0x40]

def encode (t : Text) : Bytes := t.flatMap encodePoint

def tail? (b : Nat) : Option Nat := if 0x80 ≤ b ∧ b < 0xC0 then some (b - 0x80) else none

def decodeWith? (surrogates : Bool) : Bytes → Option Text
  | [] => some []
  | a :: bytes =>
    if a < 0x80 then return a :: (← decodeWith? surrogates bytes)
    else if 0xC2 ≤ a ∧ a < 0xE0 then
      match bytes with
      | b :: bytes => return ((a - 0xC0) * 0x40 + (← tail? b)) :: (← decodeWith? surrogates bytes)
      | [] => none
    else if 0xE0 ≤ a ∧ a < 0xF0 then
      match bytes with
      | b :: c :: bytes => do
        let p := (a - 0xE0) * 0x1000 + (← tail? b) * 0x40 + (← tail? c)
        if p < 0x800 ∨ (CodePoint.isSurrogate p && !surrogates) then none
        else return p :: (← decodeWith? surrogates bytes)
      | _ => none
    else if 0xF0 ≤ a ∧ a < 0xF5 then
      match bytes with
      | b :: c :: d :: bytes => do
        let p := (a - 0xF0) * 0x40000 + (← tail? b) * 0x1000 + (← tail? c) * 0x40 + (← tail? d)
        if p < 0x10000 ∨ 0x10FFFF < p then none else return p :: (← decodeWith? surrogates bytes)
      | _ => none
    else none

def decode? (b : Bytes) : Option Text := decodeWith? false b

end Romanization.Utf8
