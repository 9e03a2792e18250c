import Romanization.RuleTable.Basic
import Romanization.Text.Basic

namespace Romanization

structure Hit where
  length : Nat
  fragment : Text
  deriving DecidableEq, Repr

namespace RuleTable

def enterLength (n : Nat) : List Nat → List Nat
  | [] => [n]
  | m :: ms => if m < n then n :: m :: ms else if m = n then m :: ms else m :: enterLength n ms

def lengths (t : RuleTable) : List Nat :=
  t.rules.foldl (fun ns (pattern, _) => enterLength pattern.length ns) []

def probe (t : RuleTable) (window : Nat → Text) : List Nat → Option Hit
  | [] => none
  | n :: ns =>
    match t.fragment? (window n) with
    | some fragment => some ⟨n, fragment⟩
    | none => probe t window ns

/-- The longest pattern at an offset, of at most `limit` units. An offset before the start counts from
the end, as in `Text.slice`, but the units that remain are counted from it onward. -/
def lookup (t : RuleTable) (text : Text) (offset : Int) (limit : Option Int) : Option Hit :=
  let remaining : Int := text.length - offset
  let bound : Int := match limit with
    | none => remaining
    | some n => min n remaining
  t.probe (fun n => text.slice offset (offset + n)) (t.lengths.filter fun n => (n : Int) ≤ bound)

def longestStart (t : RuleTable) (lengths : List Nat) (text : Text) : Option Hit :=
  t.probe text.take (lengths.filter fun n => (text.take n).length = n)

end Romanization.RuleTable
