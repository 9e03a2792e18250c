import Romanization.Http.Name
import Romanization.Text.Case

namespace Romanization.Http.Host

def isOctet (t : Text) : Bool :=
  !t.isEmpty && t.length ≤ 3 && t.all isDigit && (t.length == 1 || t.head? != some 0x30) &&
    digitsValue t < 256

def isIPv4 (t : Text) : Bool :=
  let parts := t.split 0x2E
  parts.length == 4 && parts.all isOctet

/-- Four runs of digits with one unit of any kind between two of them. A run of `n` digits can be taken
for as many as `(n - 1) / 2` more, since the unit between two runs may be a digit. -/
def looksLikeIPv4 (t : Text) : Bool :=
  let runs := Text.split 0x2E (t.map fun c => if isDigit c then c else 0x2E)
  runs.all (!·.isEmpty) && runs.length ≤ 4 &&
    4 ≤ runs.foldl (fun n run => n + 1 + (run.length - 1) / 2) 0

def isHextet (t : Text) : Bool :=
  !t.isEmpty && t.length ≤ 4 && t.all fun c => (hexValue? c).isSome

def groups? (side : List Text) : Option Nat :=
  if side == [[]] then some 0 else if side.all isHextet then some side.length else none

def areGroups (parts : List Text) : Bool :=
  let inner := (parts.drop 1).dropLast
  match inner.findIdx? List.isEmpty with
  | none => parts.length == 8 && parts.all isHextet
  | some i =>
    inner.countP List.isEmpty == 1 &&
      match groups? (parts.take (i + 1)), groups? (parts.drop (i + 2)) with
      | some high, some low => high + low < 8
      | _, _ => false

def isAddress (t : Text) : Bool :=
  let parts := t.split 0x3A
  let last := parts.getLastD []
  let groups := if last.contains 0x2E then parts.dropLast ++ [[0x30], [0x30]] else parts
  3 ≤ parts.length && groups.length ≤ 9 && (!last.contains 0x2E || isIPv4 last) && areGroups groups

def isIPv6 (t : Text) : Bool :=
  match t.split 0x25 with
  | [address] => isAddress address
  | [address, zone] => !zone.isEmpty && isAddress address
  | _ => false

def ofText? (t : Text) : Option Text :=
  if looksLikeIPv4 t then if isIPv4 t then some t else none
  else if t.head? == some 0x5B && t.getLast? == some 0x5D then
    let address := (t.drop 1).dropLast
    if isIPv6 address then some address else none
  else if Name.isAscii t || Name.isValid t.lower then some t.lower
  else none

def isHeader (t : Text) : Bool :=
  let digits (port : Text) : Bool :=
    match port with
    | [] => true
    | colon :: digits => colon == 0x3A && !digits.isEmpty && digits.all isDigit
  match t with
  | 0x5B :: t =>
    let address := t.takeWhile fun c => (hexValue? c).isSome || c == 0x3A || c == 0x2E
    match t.drop address.length with
    | 0x5D :: port => !address.isEmpty && digits port
    | _ => false
  | t =>
    let name := t.takeWhile fun c => c < 0x7F && 0x20 < c && !"\"#/:<>?@[\\]^`\x7b|\x7d".codePoints.contains c
    !name.isEmpty && digits (t.drop name.length)

end Romanization.Http.Host
