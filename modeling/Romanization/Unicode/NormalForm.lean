import Romanization.Unicode.CombiningClass
import Romanization.Unicode.Composition
import Romanization.Unicode.Decomposition

/-! The canonical normal forms: `decomposed` takes every code point apart and orders the marks, and
`composed` puts each starter together with the marks that no other mark keeps from it. -/

namespace Romanization.Unicode

/-! Hangul syllables are numbered: 588 for each leading consonant, 28 for each vowel after it. -/

namespace Hangul

def leadBase : CodePoint := 0x1100

def vowelBase : CodePoint := 0x1161

def tailBase : CodePoint := 0x11A7

def syllableBase : CodePoint := 0xAC00

def decompose? (c : CodePoint) : Option Text :=
  if syllableBase ≤ c ∧ c < syllableBase + 11172 then
    let n := c - syllableBase
    let jamo := [leadBase + n / 588, vowelBase + n % 588 / 28]
    some (if n % 28 = 0 then jamo else jamo ++ [tailBase + n % 28])
  else none

def compose? (a b : CodePoint) : Option CodePoint :=
  if leadBase ≤ a ∧ a < leadBase + 19 ∧ vowelBase ≤ b ∧ b < vowelBase + 21 then
    some (syllableBase + (a - leadBase) * 588 + (b - vowelBase) * 28)
  else if syllableBase ≤ a ∧ a < syllableBase + 11172 ∧ (a - syllableBase) % 28 = 0 ∧
      tailBase < b ∧ b < tailBase + 28 then
    some (a + (b - tailBase))
  else none

end Hangul

/-- Takes a code point apart, at most `depth` times over; only the first part is taken apart again. -/
def decomposeTo : (depth : Nat) → CodePoint → Text
  | 0, c => [c]
  | depth + 1, c =>
    match decomposeOnce? c with
    | some (a :: marks) => decomposeTo depth a ++ marks
    | _ => [c]

def decompose (c : CodePoint) : Text :=
  if c < 0xC0 then [c] else (Hangul.decompose? c).getD (decomposeTo 3 c)

def place (c : CodePoint) : Text → Text
  | [] => [c]
  | d :: ds =>
    if 0 < combiningClass c ∧ combiningClass c < combiningClass d then d :: place c ds
    else c :: d :: ds

def ordered (t : Text) : Text := (t.foldl (fun done c => place c done) []).reverse

def decomposed (t : Text) : Text := ordered (t.flatMap decompose)

def compose? (a b : CodePoint) : Option CodePoint :=
  (Hangul.compose? a b).or (composePair? a b)

/-- Composes onward from `starter`, after which stand `marks`, the last one first. A mark is kept from
the starter by one of its own class or a higher one, and a starter by any mark. -/
def composeFrom (starter : CodePoint) (marks : Text) : Text → Text
  | [] => starter :: marks.reverse
  | c :: t =>
    let k := combiningClass c
    let free := match marks with
      | [] => true
      | m :: _ => combiningClass m < k
    match if free then compose? starter c else none with
    | some whole => composeFrom whole marks t
    | none =>
      if k = 0 then starter :: marks.reverse ++ composeFrom c [] t
      else composeFrom starter (c :: marks) t

def composed (t : Text) : Text :=
  match decomposed t with
  | [] => []
  | c :: t => composeFrom c [] t

end Romanization.Unicode
