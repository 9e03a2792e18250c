import Romanization.Catalog.RuleFile

namespace Romanization

inductive Place
  | nothing
  | file
  | folder (entries : Dictionary Entry)

structure RulesFolder where
  path : Text
  place : Place

namespace RulesFolder

def ofPath? (path : Option Text) (place : Place) : Option RulesFolder :=
  match path with
  | none | some [] => none
  | some path => some ⟨path, place⟩

def pathOf (f : RulesFolder) (name : Text) : Text :=
  [0x2F].intercalate (f.path :: RuleFile.steps name)

def ruleEntries (entries : Dictionary Entry) : List (Text × Entry) :=
  let names := entries.keys.filter (·.endsWith ".json".codePoints)
  (Text.sort names).filterMap fun name => (entries.find? name).map (name, ·)

def ruleFiles (f : RulesFolder) : Except Error (List (Text × Entry)) :=
  match f.place with
  | .folder entries => .ok (ruleEntries entries)
  | _ => .error (.folderNotFound f.path)

def writeAt (entries : Dictionary Entry) (entry : Entry) : List Text → Dictionary Entry
  | [] => entries
  | [name] => entries.put name entry
  | folder :: next :: more =>
    let entries := entries.put folder .folder
    if next == "..".codePoints then writeAt entries entry more else entries

def writeEntry (entries : Dictionary Entry) (name : Text) (entry : Entry) : Dictionary Entry :=
  writeAt entries entry (RuleFile.steps name)

def write (f : RulesFolder) (name : Text) (entry : Entry) : RulesFolder :=
  match f.place with
  | .nothing => { f with place := .folder (writeEntry [] name entry) }
  | .file => f
  | .folder entries => { f with place := .folder (writeEntry entries name entry) }

def remove (f : RulesFolder) (name : Text) : RulesFolder :=
  match f.place with
  | .folder entries => { f with place := .folder (entries.filter fun e => RuleFile.steps name != [e.1]) }
  | _ => f

end Romanization.RulesFolder
