import Romanization.Text.Punycode
import Romanization.Unicode.NameUnit
import Romanization.Unicode.NormalForm

namespace Romanization.Http.Name

def maxLength : Nat := 253

def maxLabelLength : Nat := 63

def isAscii (t : Text) : Bool := t.all (· < 0x80)

def isJoiner (c : CodePoint) : Bool := c == 0x200C || c == 0x200D

def isUnit (c : CodePoint) : Bool :=
  if c < 0x80 then isDigit c || c.within [(0x61, 0x7A)] || c == 0x2D
  else isJoiner c || Unicode.isNameUnit c

def isGreek (c : CodePoint) : Bool :=
  c.within [(0x370, 0x3E1), (0x3F0, 0x3FF), (0x1D26, 0x1D2A), (0x1F00, 0x1FFF)]

def isHebrew (c : CodePoint) : Bool := c.within [(0x591, 0x5F4)]

def isEastAsian (c : CodePoint) : Bool :=
  c.within [(0x3005, 0x3007), (0x3041, 0x309F), (0x30A1, 0x30FA), (0x30FD, 0x30FF), (0x31F0, 0x31FF),
    (0x3400, 0x9FFF), (0x1AFF0, 0x1B167), (0x20000, 0x3134A)]

def isArabicDigit (c : CodePoint) : Bool := c.within [(0x660, 0x669)]

def isPersianDigit (c : CodePoint) : Bool := c.within [(0x6F0, 0x6F9)]

/-- What some units ask of their neighbours: a point between two letters l, Greek behind its sign for
numbers, Hebrew before its own, a virama before a joiner. -/
def isPlaced (left? right? : Option CodePoint) (c : CodePoint) : Bool :=
  if c == 0xB7 then left? == some 0x6C && right? == some 0x6C
  else if c == 0x375 then right?.any isGreek
  else if c == 0x5F3 || c == 0x5F4 then left?.any isHebrew
  else if isJoiner c then left?.any fun left => Unicode.combiningClass left == 9
  else true

def arePlaced (left? : Option CodePoint) : Text → Bool
  | [] => true
  | c :: t => isPlaced left? t.head? c && arePlaced (some c) t

def isOfOneKind (t : Text) : Bool :=
  (!t.contains 0x30FB || t.any isEastAsian) && !(t.any isArabicDigit && t.any isPersianDigit)

def isArabicNumber (c : CodePoint) : Bool := isArabicDigit c || c.within [(0x10D30, 0x10D39)]

def isEuropeanNumber (c : CodePoint) : Bool := isDigit c || isPersianDigit c

def isRightToLeft (c : CodePoint) : Bool := Unicode.isRightToLeft c && !Unicode.isMark c

/-- A label from right to left begins with a letter of that direction, holds no other letter and numbers
of one kind, and ends with a letter or a number before its last marks. -/
def hasOneDirection (t : Text) : Bool :=
  if t.any fun c => isRightToLeft c || isArabicNumber c then
    let isSolid c := isRightToLeft c || isArabicNumber c || isEuropeanNumber c
    t.head?.any isRightToLeft &&
      t.all (fun c => isSolid c || Unicode.isMark c || isJoiner c || Unicode.isNeutral c) &&
      !(t.any isArabicNumber && t.any isEuropeanNumber) &&
      (t.reverse.find? (!Unicode.isMark ·)).any isSolid
  else true

def hasPlainHyphens (t : Text) : Bool :=
  t.head? != some 0x2D && t.getLast? != some 0x2D && (t.drop 2).take 2 != [0x2D, 0x2D]

def encodedLength (t : Text) : Nat := if isAscii t then t.length else 4 + (Text.Punycode.encode t).length

def isLabel (t : Text) : Bool :=
  !t.isEmpty && t.all isUnit && hasPlainHyphens t && !t.head?.any Unicode.isMark && arePlaced none t &&
    isOfOneKind t && hasOneDirection t && Unicode.composed t == t && encodedLength t ≤ maxLabelLength

def isPoint (c : CodePoint) : Bool := c == 0x2E || c == 0x3002 || c == 0xFF0E || c == 0xFF61

def labels (t : Text) : List Text :=
  let labels := Text.split 0x2E (t.map fun c => if isPoint c then 0x2E else c)
  if labels.getLast? == some [] then labels.dropLast else labels

def isValid (t : Text) : Bool :=
  let labels := labels t
  !labels.isEmpty && labels.all isLabel &&
    labels.foldl (fun n label => n + 1 + encodedLength label) 0 ≤ maxLength + 1

end Romanization.Http.Name
