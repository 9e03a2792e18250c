import Romanization.Error
import Romanization.Json.Reader
import Romanization.Text.Case
import Romanization.Text.Utf8

namespace Romanization

inductive Entry
  | file (b : Utf8.Bytes)
  | folder

structure RuleFile where
  script : Text
  languages : List Text
  rules : List (Json × Json)

namespace RuleFile

def steps (name : Text) : List Text := (name.split 0x2F).filter fun s => !s.isEmpty && s != [0x2E]

/-- A file name up to its last point, unless the point is its first or last unit. -/
def stem (name : Text) : Text :=
  let ending := name.reverse.takeWhile (· != 0x2E)
  let start := name.take (name.length - ending.length - 1)
  if start.isEmpty || ending.isEmpty then name else start

def given? (members : List (Text × Json)) (key : String) : Option Json :=
  (Json.member? members key.codePoints).filter (!·.isVoid)

def pairs (path : Text) : List Json → Except Error (List (Json × Json))
  | [] => .ok []
  | .array [a, b] :: items => return (a, b) :: (← pairs path items)
  | item :: _ => .error (.badFileRule path item)

def givenScript (path name : Text) (members : List (Text × Json)) : Except Error Text :=
  match given? members "script" with
  | none => .ok (stem ((steps name).getLast?.getD []))
  | some (.string t) => .ok t
  | some _ => .error (.scriptNotText path)

def givenLanguages (path : Text) (members : List (Text × Json)) : Except Error (List Text) :=
  match given? members "languages" with
  | none => .ok []
  | some v => match v.strings? with
    | some ts => .ok ts
    | none => .error (.languagesNotTexts path)

def givenRules (path : Text) (members : List (Text × Json)) : Except Error (List (Json × Json)) :=
  match Json.member? members "rules".codePoints with
  | some (.array items) => pairs path items
  | _ => .error (.rulesNotList path)

def ofJson (path name : Text) : Json → Except Error RuleFile
  | .object members => do
    let script ← givenScript path name members
    let languages ← givenLanguages path members
    let rules ← givenRules path members
    return ⟨script.lower, languages.map Text.lower, rules⟩
  | _ => .error (.notAnObject path)

def maxDepth : Nat := 988

def decode (path : Text) : Option Entry → Except Error Json
  | none => .error (.unreadable path .absent)
  | some .folder => .error (.unreadable path .folder)
  | some (.file b) =>
    match Utf8.decode? b with
    | none => .error (.unreadable path .notUtf8)
    | some t =>
      match Json.read maxDepth t with
      | .ok v => .ok v
      | .error .malformed => .error (.unreadable path .notJson)
      | .error (.longInteger digits) => .error (.longInteger digits)
      | .error .deepNesting => .error .deepNesting

def load (path name : Text) (entry : Option Entry) : Except Error RuleFile := do
  ofJson path name (← decode path entry)

end Romanization.RuleFile
