import Romanization.Text.Utf8

namespace Romanization

inductive Encoding
  | utf8
  | utf16 (bigEndian : Bool)
  | utf32 (bigEndian : Bool)
  deriving DecidableEq, Repr

namespace Encoding

open Utf8 (Bytes)

def ofZeros : Bytes → Encoding
  | a :: b :: c :: d :: _ =>
    if a = 0 then (if b = 0 then .utf32 true else .utf16 true)
    else if b = 0 then (if c = 0 ∧ d = 0 then .utf32 false else .utf16 false)
    else .utf8
  | [a, b] => if a = 0 then .utf16 true else if b = 0 then .utf16 false else .utf8
  | _ => .utf8

def detect : Bytes → Encoding × Bytes
  | 0x00 :: 0x00 :: 0xFE :: 0xFF :: bytes => (.utf32 true, bytes)
  | 0xFF :: 0xFE :: 0x00 :: 0x00 :: bytes => (.utf32 false, bytes)
  | 0xFE :: 0xFF :: bytes => (.utf16 true, bytes)
  | 0xFF :: 0xFE :: bytes => (.utf16 false, bytes)
  | 0xEF :: 0xBB :: 0xBF :: bytes => (.utf8, bytes)
  | bytes => (ofZeros bytes, bytes)

def pairs? (bigEndian : Bool) : Bytes → Option (List Nat)
  | [] => some []
  | a :: b :: bytes =>
    return (if bigEndian then a * 0x100 + b else b * 0x100 + a) :: (← pairs? bigEndian bytes)
  | _ => none

def join : List Nat → Text
  | [] => []
  | [unit] => [unit]
  | high :: low :: units =>
    match CodePoint.joined? high low with
    | some c => c :: join units
    | none => high :: join (low :: units)

def points? (bigEndian : Bool) : List Nat → Option Text
  | [] => some []
  | a :: b :: units => do
    let p := if bigEndian then a * 0x10000 + b else b * 0x10000 + a
    if 0x10FFFF < p then none else return p :: (← points? bigEndian units)
  | _ => none

def decode? : Encoding → Bytes → Option Text
  | utf8, bytes => Utf8.decodeWith? true bytes
  | utf16 bigEndian, bytes => (pairs? bigEndian bytes).map join
  | utf32 bigEndian, bytes => (pairs? bigEndian bytes).bind (points? bigEndian)

end Encoding

def Text.ofBytes? (bytes : Utf8.Bytes) : Option Text :=
  let (encoding, bytes) := Encoding.detect bytes
  encoding.decode? bytes

end Romanization
