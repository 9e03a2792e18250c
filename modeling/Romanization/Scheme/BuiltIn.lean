import Romanization.RuleTable.Build
import Romanization.Scheme.Brahmic
import Romanization.Scheme.Cyrillic

namespace Romanization

structure Scheme where
  script : Text
  languages : List Text
  rules : List Rule

namespace Scheme

def ofBlock (b : Brahmic.Block) : Scheme :=
  ⟨b.script.name, b.languages.map String.codePoints, b.rules⟩

def cyrillic : Scheme :=
  ⟨Script.cyrillic.name, Cyrillic.languages.map String.codePoints, Cyrillic.rules⟩

def builtIn : List Scheme :=
  [Brahmic.devanagari, Brahmic.bengali, Brahmic.gurmukhi, Brahmic.gujarati].map ofBlock ++ [cyrillic]

def builtIn? (key : Json) : Except Error Scheme :=
  match builtIn.find? fun s => key.string? == some s.script with
  | some scheme => .ok scheme
  | none => .error (if key.isKey then .noSuchKey key else .unfit key)

def table (s : Scheme) : Except Error RuleTable := RuleTable.ofRules s.script s.rules

end Romanization.Scheme
