import Romanization.Cluster
import Romanization.RuleTable.Build

/-! Tables that are taken as they are. What stands for a pattern may be any value that has a length, and
such a table is read through the table in which every pattern stands for itself. -/

namespace Romanization

def Json.length? : Json → Option Nat
  | string t => some t.length
  | array items => some items.length
  | object members => some members.length
  | _ => none

namespace RuleTable

structure Unchecked where
  name : Text
  entries : Dictionary Json
  distinct : entries.keys.Nodup

namespace Unchecked

def entry : Json × Json → Except Error (Text × Json)
  | (.string pattern, v) => .ok (pattern, v)
  | (key, _) => .error (.unfit key)

def ofEntries (name : Text) (entries : List (Json × Json)) : Except Error Unchecked := do
  let entries ← entries.mapM entry
  match (Dictionary.ofList entries).map Prod.snd |>.find? (·.length?.isNone) with
  | some v => .error (.unfit v)
  | none => return ⟨name, Dictionary.ofList entries, Dictionary.nodup_ofList entries⟩

def patterns (t : Unchecked) : RuleTable where
  name := t.name
  rules := t.entries.map fun (pattern, _) => (pattern, pattern)
  distinct := by simpa [Dictionary.keys, Function.comp_def] using t.distinct

def value (t : Unchecked) (pattern : Text) : Json := (t.entries.find? pattern).getD .null

def maxValueLength (t : Unchecked) : Nat :=
  t.entries.foldl (fun n (_, v) => max n (v.length?.getD 0)) 0

def output (t : Unchecked) (c : Cluster) : Json :=
  if c.matched then t.value c.output else .string c.output

end Unchecked

/-- What a caller hands over where a table is wanted. -/
inductive Handed
  | table (t : RuleTable)
  | unchecked (t : Unchecked)
  | value (v : Json)

namespace Handed

def texts? : Json × Json → Option Rule
  | (.string pattern, .string fragment) => some (pattern, fragment)
  | _ => none

def ofEntries (name : Text) (entries : List (Json × Json)) : Except Error Handed :=
  match entries.mapM texts? with
  | some rules => .ok (table (RuleTable.ofEntries name rules))
  | none => (Unchecked.ofEntries name entries).map unchecked

def parts : Handed → Except Error (List (Json × Json))
  | table t => .ok (t.rules.map fun (pattern, fragment) => (.string pattern, .string fragment))
  | unchecked t => .ok (t.entries.map fun (pattern, v) => (.string pattern, v))
  | value (.object members) => .ok (members.map fun (key, v) => (.string key, v))
  | value v => .error (.incapable v)

def merge (name : Text) (tables : List Handed) : Except Error RuleTable := do
  ofParts name (← tables.mapM parts).flatten

end Handed

/-- Tables that are checked already merge in the same way. -/
theorem Handed.merge_table (name : Text) (tables : List RuleTable) :
    Handed.merge name (tables.map table) = RuleTable.merge name tables := by
  let ofRule : Rule → Json × Json := fun r => (.string r.1, .string r.2)
  have hp : (tables.map table).mapM parts = Except.ok (tables.map fun t => t.rules.map ofRule) := by
    induction tables with
    | nil => rfl
    | cons t tables ih => rw [List.map_cons, List.mapM_cons, ih]; rfl
  have hf : (tables.map fun t => t.rules.map ofRule).flatten = (tables.flatMap rules).map ofRule := by
    rw [List.map_flatMap, List.flatMap_def]
  unfold Handed.merge RuleTable.merge ofRules
  rw [hp]
  show ofParts name _ = _
  rw [hf, ofParts, build_map]

end Romanization.RuleTable
