import Romanization.Script.Basic
import Romanization.Text.Blank

namespace Romanization

structure Run where
  text : Text
  script : Option Script
  deriving DecidableEq, Repr

namespace Run

def close (script : Option Script) (taken : Text) : List Run :=
  let text := Text.trim taken.reverse
  if text.isEmpty then [] else [⟨text, script⟩]

/-- A code point of no script stays with the run before it; one of another script starts a run. -/
def cut (script : Option Script) (taken : Text) : Text → List Run
  | [] => close script taken
  | c :: t =>
    match Script.ofCodePoint? c with
    | none => cut script (c :: taken) t
    | some s =>
      if script = none ∨ script = some s then cut (some s) (c :: taken) t
      else close script taken ++ cut (some s) [c] t

end Run

namespace Text

def runs (t : Text) : List Run := Run.cut none [] t

def scripts (t : Text) : List Script := (t.runs.filterMap Run.script).eraseDups

end Romanization.Text
