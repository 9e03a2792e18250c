import Romanization.Catalog.RulesFolder
import Romanization.Scheme.BuiltIn
import Romanization.Text.Blank

namespace Romanization

inductive Source
  | builtIn
  | file (path : Text)

def Source.text : Source → Text
  | .builtIn => "builtin".codePoints
  | .file path => path

structure Listing where
  table : RuleTable
  source : Source

structure Catalog where
  listings : Dictionary Listing
  languages : Dictionary Text
  combined : Option RuleTable

namespace Catalog

def empty : Catalog := ⟨[], [], none⟩

def combinedName : Text := "auto".codePoints

/-- A script or a language that is there already gets the new table or the new script. -/
def add (c : Catalog) (table : RuleTable) (source : Source) (languages : List Text) : Catalog :=
  { c with
    listings := c.listings.put table.name ⟨table, source⟩
    languages := languages.foldl (fun d language => d.put language table.name) c.languages }

def addScheme (c : Catalog) (s : Scheme) : Except Error Catalog := do
  return c.add (← s.table) .builtIn s.languages

def addFile (folder : RulesFolder) (c : Catalog) (entry : Text × Entry) : Except Error Catalog := do
  let path := folder.pathOf entry.1
  let file ← RuleFile.load path entry.1 (some entry.2)
  return c.add (← RuleTable.ofParts file.script file.rules) (.file path) file.languages

def detectable (c : Catalog) : List RuleTable :=
  c.listings.filterMap fun (script, listing) =>
    if Script.all.any (·.name == script) then some listing.table else none

def combine (c : Catalog) : Except Error Catalog :=
  match c.detectable with
  | [] => .ok { c with combined := none }
  | tables => return { c with combined := some (← RuleTable.merge combinedName tables) }

def ofSchemes : Except Error Catalog := Scheme.builtIn.foldlM addScheme empty

def addFolder (c : Catalog) (folder : RulesFolder) : Except Error Catalog := do
  (← folder.ruleFiles).foldlM (addFile folder) c

/-- The built-in schemes if wanted, then the rule files in the order of their names. The first file that
fails decides the error, and so does a pattern in two tables that are combined. -/
def build (builtIn : Bool) (folder : Option RulesFolder) : Except Error Catalog := do
  let schemes ← if builtIn then ofSchemes else .ok empty
  let full ← match folder with
    | none => .ok schemes
    | some folder => schemes.addFolder folder
  full.combine

def standard : Except Error Catalog := build true none

def scripts (c : Catalog) : List Text := Text.sort c.listings.keys

def combinedTable (c : Catalog) : Except Error RuleTable :=
  match c.combined with
  | some table => .ok table
  | none => .error (.unknownName (some combinedName))

def key (name : Option Text) : Text := (name.getD []).trim.lower

def table (c : Catalog) (script : Option Text) : Except Error RuleTable :=
  if key script = combinedName then c.combinedTable
  else match c.listings.find? (key script) with
    | some listing => .ok listing.table
    | none => .error (.unknownName script)

def scriptOfLanguage (c : Catalog) (language : Option Text) : Except Error Text :=
  match c.languages.find? (key language) with
  | some script => .ok script
  | none => .error (.unknownName language)

def languagesOf (c : Catalog) (script : Text) : List Text :=
  Text.sort ((c.languages.filter (·.2 == script)).map Prod.fst)

end Romanization.Catalog
