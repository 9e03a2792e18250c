import Romanization.Catalog.Basic
import Romanization.Romanizer
import Romanization.Script.Run

namespace Romanization

structure Service where
  composes : Bool
  case : Json

namespace Service

structure Request where
  text : Option Text
  script : Option Text
  language : Option Text
  case : Json
  clusters : Bool

structure Answer where
  input : Option Text
  output : Text
  scripts : List Script
  vernacular : Bool
  table : Option Text
  clusters : List Cluster

def named (name : Option Text) : Bool := name.any (!·.isEmpty)

/-- A script comes before a language, and both before the scripts of the text. Latin letters alone call
for no table. -/
def tableFor (c : Catalog) (scripts : List Script) (script language : Option Text) :
    Except Error (Option RuleTable) := do
  if named script then return some (← c.table script)
  else if named language then return some (← c.table (some (← c.scriptOfLanguage language)))
  else if scripts.all (· == .latin) then return none
  else return some (← c.combinedTable)

def answer (s : Service) (c : Catalog) (request : Request) : Except Error Answer := do
  let text := Text.tidy (request.text.getD []) s.composes
  let scripts := text.scripts
  match ← tableFor c scripts request.script request.language with
  | none => return ⟨request.text, text, scripts, false, none, []⟩
  | some table =>
    let case ← CaseMode.ofJson (if request.case.isVoid then s.case else request.case)
    let romanizer : Romanizer := ⟨table, case⟩
    if request.clusters then
      let (output, clusters) := romanizer.transliterateWithClusters (some text) .usual
      return ⟨request.text, output, scripts, true, some table.name, clusters⟩
    else
      return ⟨request.text, romanizer.transliterate (some text) .usual, scripts, true, some table.name, []⟩

end Romanization.Service
