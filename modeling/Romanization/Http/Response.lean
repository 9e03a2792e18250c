import Romanization.Catalog.Basic
import Romanization.Check
import Romanization.Service

namespace Romanization.Http

structure Location where
  authority : Option Text
  path : Text

/-- What a response tells, before it is written out. All but a plain text and a location, which stands in
no body, is written as JSON. -/
inductive Message
  | plain (t : Text)
  | moved (location : Location)
  | detail (t : Text)
  | faults (faults : List Fault)
  | transliteration (answer : Service.Answer) (clusters : Bool)
  | scripts (catalog : Catalog)
  | reloaded (catalog : Catalog)

structure Response where
  status : Nat
  message : Message

namespace Response

def fail (status : Nat) (detail : Text) : Response := ⟨status, .detail detail⟩

def object (members : List (String × Json)) : Json :=
  .object (members.map fun (key, v) => (key.codePoints, v))

def cluster (c : Cluster) : Json :=
  object [("start", .int c.start), ("length", .int c.length), ("output", .string c.output),
    ("matched", .bool c.matched)]

def listing (c : Catalog) (script : Text) : Option Json :=
  (c.listings.find? script).map fun listing =>
    object [("script", .string script), ("languages", .array ((c.languagesOf script).map .string)),
      ("rules", .int listing.table.size), ("max_pattern_length", .int listing.table.maxPatternLength),
      ("max_fragment_length", .int listing.table.maxFragmentLength),
      ("source", .string listing.source.text)]

def fault (f : Fault) : Json :=
  object [("type", .string f.kind.name), ("loc", .array (f.place.map .string)), ("input", f.value)]

def body (r : Response) : Json :=
  match r.message with
  | .plain t => .string t
  | .moved _ => .string []
  | .detail t => object [("detail", .string t)]
  | .faults faults => object [("detail", .array (faults.map fault))]
  | .transliteration a clusters =>
    object [("input", .string (a.input.getD [])), ("output", .string a.output),
      ("scripts", .array (a.scripts.map fun s => .string s.name)), ("vernacular", .bool a.vernacular),
      ("table", (a.table.map Json.string).getD .null),
      ("clusters", if clusters then .array (a.clusters.map cluster) else .null)]
  | .scripts c => .array (c.scripts.filterMap (listing c))
  | .reloaded c =>
    object [("scripts", .array (c.scripts.map .string)),
      ("rules", .int (c.listings.foldl (fun n (_, l) => n + l.table.size) 0 : Nat))]

def failure : Response := ⟨500, .plain "Internal Server Error".codePoints⟩

def sent (r : Response) : Response := if r.body.isWritable then r else failure

def withoutBody (r : Response) : Response :=
  match r.message with
  | .moved _ => r
  | _ => { r with message := .plain [] }

end Romanization.Http.Response
