import Romanization.Text.Basic
import Romanization.Unicode.CaseContext
import Romanization.Unicode.CaseMapping

namespace Romanization

namespace Text

/-- A capital sigma ends a word when it follows a letter with case and none follows it, marks and
punctuation within words not counted. `before` is given from its end. -/
def isFinalSigma (before after : Text) : Bool :=
  let cased (t : Text) := (t.dropWhile Unicode.isCaseIgnorable).head?.any Unicode.isCased
  cased before && !cased after

def lowerAfter (before : Text) : Text → Text
  | [] => []
  | c :: t =>
    let low := if c = 0x3A3 then [if isFinalSigma before t then 0x3C2 else 0x3C3]
      else Unicode.lowerCase c
    low ++ lowerAfter (c :: before) t

def lower (t : Text) : Text := lowerAfter [] t

def upper (t : Text) : Text := t.flatMap Unicode.upperCase

end Text

inductive CaseMode
  | preserve
  | lower
  | upper
  deriving DecidableEq, Repr

namespace CaseMode

def apply : CaseMode → Text → Text
  | .preserve, t => t
  | .lower, t => t.lower
  | .upper, t => t.upper

def name : CaseMode → Text
  | .preserve => "preserve".codePoints
  | .lower => "lower".codePoints
  | .upper => "upper".codePoints

def ofName? (t : Text) : Option CaseMode := [preserve, lower, upper].find? (·.name == t)

end Romanization.CaseMode
