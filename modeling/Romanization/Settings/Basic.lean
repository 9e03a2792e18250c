import Romanization.Check
import Romanization.Settings.EnvFile

namespace Romanization

structure Settings where
  host : Text
  port : Int
  requireAuth : Bool
  apiKey : Text
  builtInTables : Bool
  rulesDir : Option Text
  defaultCase : CaseMode
  normalizeUnicode : Bool
  maxInputChars : Int
  logLevel : Text

namespace Settings

structure Sources where
  arguments : Dictionary Json
  environment : Dictionary Text
  envFile : Text

def valueOf? (entries : Dictionary (Option Text)) (name : Text) : Option Json :=
  ((Dictionary.ofList (entries.map fun (key, value) => (key.lower, value))).find? name).join.map .string

def argument? (arguments : Dictionary Json) (name : Text) : Option Json :=
  (List.find? (fun (key, _) => key.lower == name) arguments).map Prod.snd

def Sources.find? (s : Sources) (name : Text) : Option Json :=
  (argument? s.arguments name).or
    ((valueOf? (s.environment.map fun (key, value) => (key, some value)) name).or
      (valueOf? (EnvFile.entries s.environment s.envFile) name))

variable {α : Type}

def field (s : Sources) (name : String) (read : Json → Except FaultKind α) (default : α) : Check α :=
  match s.find? name.codePoints with
  | none => .ok default
  | some v => Check.placed [name.codePoints] read v

def ofSources (s : Sources) : Check Settings :=
  Check.pass Settings.mk
    |>.also (field s "host" Json.toText "0.0.0.0".codePoints)
    |>.also (field s "port" Json.toInt 8000)
    |>.also (field s "require_auth" Json.toBool false)
    |>.also (field s "api_key" Json.toText "dummy-local-key".codePoints)
    |>.also (field s "builtin_tables" Json.toBool true)
    |>.also (field s "rules_dir" Json.toTextOrNull none)
    |>.also (field s "default_case" Json.toCase .preserve)
    |>.also (field s "normalize_unicode" Json.toBool true)
    |>.also (field s "max_input_chars" Json.toInt 4096)
    |>.also (field s "log_level" Json.toText "INFO".codePoints)

end Romanization.Settings
