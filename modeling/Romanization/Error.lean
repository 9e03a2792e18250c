import Romanization.Json.Quoted

namespace Romanization

inductive ReadFault
  | absent
  | folder
  | notUtf8
  | notJson
  deriving DecidableEq, Repr

inductive Error
  | duplicatePattern (pattern table : Text)
  | tableMissing
  | notATable (value : Json)
  | rulesMissing
  | rulesNotIterable
  | malformedRule (item : Json)
  | badPattern (value : Json)
  | badFragment (pattern : Text) (value : Json)
  | unknownName (name : Option Text)
  | folderNotFound (path : Text)
  | unreadable (path : Text) (fault : ReadFault)
  | longInteger (digits : Nat)
  | deepNesting
  | notAnObject (path : Text)
  | scriptNotText (path : Text)
  | languagesNotTexts (path : Text)
  | rulesNotList (path : Text)
  | badFileRule (path : Text) (item : Json)
  | unknownCase (value : Json)
  | noSuchKey (key : Json)
  | unfit (value : Json)
  | incapable (value : Json)

/-- What is told of an error. The parts are texts unless a caller makes up an error of its own. -/
structure Diagnostic where
  message : Json
  code : Json

namespace Diagnostic

def text? (d : Diagnostic) : Option Text :=
  if d.code.isVoid then d.message.string?
  else some (0x5B :: d.code.shown ++ "] ".codePoints ++ d.message.shown)

def plain (message : Text) : Diagnostic := ⟨.string message, .null⟩

def invalidTable (message : Json) : Diagnostic := ⟨message, .string "invalid_table".codePoints⟩

def ruleSource (message : Json) : Diagnostic := ⟨message, .string "rule_source".codePoints⟩

def ofTable (message : Text) : Diagnostic := invalidTable (.string message)

def ofSource (message : Text) : Diagnostic := ruleSource (.string message)

def duplicateKey (pattern table : Json) : Diagnostic :=
  let place := if table.isVoid then [] else " in table '".codePoints ++ table.shown ++ "'".codePoints
  ⟨.string ("Duplicate source pattern ".codePoints ++ pattern.quoted ++ place),
    .string "duplicate_key".codePoints⟩

def unknownScript (name : Json) : Diagnostic :=
  ⟨.string ("No rule table registered for: ".codePoints ++ name.shown),
    .string "unknown_script".codePoints⟩

end Diagnostic

namespace Error

open Diagnostic

def diagnostic : Error → Diagnostic
  | duplicatePattern pattern table => duplicateKey (.string pattern) (.string table)
  | tableMissing => ofTable "Rule table is missing or not built".codePoints
  | notATable value => ofTable ("Expected a RuleTable, got ".codePoints ++ value.kind)
  | rulesMissing => ofTable "Rules must be a sequence of (pattern, fragment) pairs".codePoints
  | rulesNotIterable => plain "Rules cannot be iterated".codePoints
  | malformedRule item =>
    ofTable ("Rule must be a (pattern, fragment) pair, got ".codePoints ++ item.quoted)
  | badPattern value =>
    ofTable ("Source pattern must be a non-empty string, got ".codePoints ++ value.quoted)
  | badFragment pattern value =>
    ofTable ("Target fragment for ".codePoints ++ pattern.quoted ++
      " must be a string, got ".codePoints ++ value.quoted)
  | unknownName name => unknownScript ((name.map Json.string).getD .null)
  | folderNotFound path => ofSource ("Rules directory not found: ".codePoints ++ path)
  | unreadable path _ => ofSource ("Cannot read rule file ".codePoints ++ path)
  | longInteger digits =>
    plain ("Exceeds the limit (4300 digits) for integer string conversion: value has ".codePoints ++
      Text.ofNat digits ++
      " digits; use sys.set_int_max_str_digits() to increase the limit".codePoints)
  | deepNesting => plain "Values are nested too deep".codePoints
  | notAnObject path => ofSource (path ++ ": top level must be an object".codePoints)
  | scriptNotText path => ofSource (path ++ ": 'script' must be a string".codePoints)
  | languagesNotTexts path => ofSource (path ++ ": 'languages' must be a list of strings".codePoints)
  | rulesNotList path =>
    ofSource (path ++ ": 'rules' must be a list of [pattern, fragment] pairs".codePoints)
  | badFileRule path item =>
    ofSource (path ++ ": bad rule ".codePoints ++ item.quoted ++
      ", expected [pattern, fragment]".codePoints)
  | unknownCase value =>
    plain ("Unknown case mode: ".codePoints ++ value.quoted ++
      ". Expected one of ('preserve', 'lower', 'upper')".codePoints)
  | noSuchKey key => plain key.quoted
  | unfit value => plain ("A value of another kind is needed, not ".codePoints ++ value.quoted)
  | incapable value => plain ("This cannot be asked of ".codePoints ++ value.quoted)

def code? (e : Error) : Option Text := e.diagnostic.code.string?

def text (e : Error) : Text := e.diagnostic.text?.getD []

theorem text?_diagnostic (e : Error) : e.diagnostic.text? = some e.text := by
  cases e <;> rfl

end Romanization.Error
