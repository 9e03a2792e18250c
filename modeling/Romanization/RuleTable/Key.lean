import Romanization.RuleTable.Build

namespace Romanization.RuleTable

def find? (t : RuleTable) (key : Json) : Except Error (Option Text) :=
  if key.isKey then .ok (key.string?.bind t.fragment?) else .error (.unfit key)

def contains (t : RuleTable) (key : Json) : Except Error Bool := return (← t.find? key).isSome

def get (t : RuleTable) (key : Json) : Except Error Text := do
  match ← t.find? key with
  | some fragment => return fragment
  | none => .error (.noSuchKey key)

def enter (key value : Json) : List (Json × Json) → List (Json × Json)
  | [] => [(key, value)]
  | (other, v) :: entries =>
    match key, other with
    | .string s, .string t => if s == t then (other, value) :: entries
      else (other, v) :: enter key value entries
    | _, _ => (other, v) :: enter key value entries

def ofMapping (name : Text) (entries : List (Json × Json)) : Except Error RuleTable :=
  match entries.find? (!·.1.isKey) with
  | some (key, _) => .error (.unfit key)
  | none => ofParts name (entries.foldl (fun es (key, value) => enter key value es) [])

end Romanization.RuleTable
