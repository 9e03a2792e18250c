import Romanization.Check
import Romanization.Json.Reader
import Romanization.Text.Encoding

namespace Romanization.Http

structure Payload where
  input : Text
  script : Option Text
  language : Option Text
  case : Option CaseMode
  clusters : Bool

namespace Payload

inductive Refusal
  | faults (faults : List Fault)
  | unreadable

def bodyPlace (key : String) : List Text := ["body".codePoints, key.codePoints]

variable {α : Type}

def optional (members : List (Text × Json)) (key : String) (read : Json → Except FaultKind α)
    (default : α) : Check α :=
  match Json.member? members key.codePoints with
  | none => .ok default
  | some v => Check.placed (bodyPlace key) read v

def required (members : List (Text × Json)) (key : String) (read : Json → Except FaultKind α) :
    Check α :=
  match Json.member? members key.codePoints with
  | none => .error [⟨.missing, bodyPlace key, .object members⟩]
  | some v => Check.placed (bodyPlace key) read v

def ofMembers (members : List (Text × Json)) : Check Payload :=
  Check.pass Payload.mk
    |>.also (required members "input" Json.toNonemptyText)
    |>.also (optional members "script" Json.toTextOrNull none)
    |>.also (optional members "language" Json.toTextOrNull none)
    |>.also (optional members "case" Json.toCaseOrNull none)
    |>.also (optional members "clusters" Json.toBool false)

def fault (kind : FaultKind) (value : Json) : List Fault := [⟨kind, ["body".codePoints], value⟩]

def ofJson : Json → Check Payload
  | .object members => ofMembers members
  | v => .error (fault .notAnObject v)

def maxDepth : Nat := 965

def ofText (t : Text) : Except Refusal Payload :=
  match Json.read maxDepth t with
  | .ok v => (ofJson v).mapError .faults
  | .error .malformed => .error (.faults (fault .jsonInvalid (.object [])))
  | .error _ => .error .unreadable

def ofBytes (isJson : Bool) (body : Utf8.Bytes) : Except Refusal Payload :=
  if body.isEmpty then .error (.faults (fault .missing .null))
  else match isJson, Text.ofBytes? body with
    | true, some t => ofText t
    | true, none => .error .unreadable
    | false, _ =>
      .error (.faults (fault .notAnObject (.string ((Utf8.decodeWith? true body).getD []))))

def isJsonType (contentType : Text) : Bool :=
  match Text.split 0x2F (Text.trim (contentType.takeWhile (· != 0x3B))).lower with
  | [main, sub] =>
    main == "application".codePoints && (sub == "json".codePoints || sub.endsWith "+json".codePoints)
  | _ => false

end Romanization.Http.Payload
