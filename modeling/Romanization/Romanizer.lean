import Romanization.RuleTable.Unchecked
import Romanization.Text.Blank
import Romanization.Text.Buffer
import Romanization.Text.Case

namespace Romanization

def CaseMode.ofJson (v : Json) : Except Error CaseMode :=
  match v.string?.bind CaseMode.ofName? with
  | some mode => .ok mode
  | none => .error (.unknownCase v)

/-- The case asked for in one call: the usual one, or what a value names, which changes nothing if it
is no case mode. -/
inductive CaseChoice
  | usual
  | mode (m : CaseMode)
  | unknown

namespace CaseChoice

def ofJson (v : Json) : CaseChoice :=
  if v.isVoid then usual
  else match v.string?.bind CaseMode.ofName? with
    | some m => mode m
    | none => unknown

def apply (usualMode : CaseMode) : CaseChoice → Text → Text
  | usual => usualMode.apply
  | mode m => m.apply
  | unknown => id

end CaseChoice

structure Romanizer where
  table : RuleTable
  case : CaseMode

namespace Romanizer

def joined (table : RuleTable) (inputLength : Nat) (clusters : List Cluster) : Buffer :=
  clusters.foldl (fun b c => b.append c.output) (Buffer.forInput inputLength table.maxFragmentLength)

def render (r : Romanizer) (choice : CaseChoice) (text : Text) (clusters : List Cluster) : Text :=
  choice.apply r.case (joined r.table text.length clusters).text.trim

def transliterate (r : Romanizer) (text : Option Text) (choice : CaseChoice) : Text :=
  match text with
  | none | some [] => []
  | some text => r.render choice text (r.table.clusters text)

def clusters (r : Romanizer) (text : Option Text) : List Cluster := r.table.clusters (text.getD [])

def transliterateWithClusters (r : Romanizer) (text : Option Text) (choice : CaseChoice) :
    Text × List Cluster :=
  match r.clusters text with
  | [] => ([], [])
  | clusters => (r.render choice (text.getD []) clusters, clusters)

structure Unchecked where
  table : RuleTable.Unchecked
  case : CaseMode

namespace Unchecked

def clusters (r : Unchecked) (text : Option Text) : List Cluster :=
  r.table.patterns.clusters (text.getD [])

/-- What is void is written as nothing, and besides it only texts can be written. -/
def written : Json → Except Error Text
  | .string t => .ok t
  | v => if v.isVoid then .ok [] else .error (.incapable v)

def transliterate (r : Unchecked) (text : Option Text) (choice : CaseChoice) : Except Error Text := do
  let clusters ← (r.clusters text).mapM fun c => return { c with output := ← written (r.table.output c) }
  return render ⟨r.table.patterns, r.case⟩ choice (text.getD []) clusters

end Unchecked

def ofParts (table : RuleTable.Handed) (case : Json) : Except Error (Romanizer ⊕ Unchecked) :=
  match table with
  | .table t => return .inl ⟨t, ← CaseMode.ofJson case⟩
  | .unchecked t => return .inr ⟨t, ← CaseMode.ofJson case⟩
  | .value .null => .error .tableMissing
  | .value v => .error (.notATable v)

end Romanizer

def transliterate (text : Option Text) (table : RuleTable.Handed) (case : Json) : Except Error Text := do
  match ← Romanizer.ofParts table case with
  | .inl r => return r.transliterate text .usual
  | .inr r => r.transliterate text .usual

end Romanization
