import Romanization.Catalog.Registry
import Romanization.Http.Host
import Romanization.Http.Payload
import Romanization.Http.Response
import Romanization.Settings.Basic

namespace Romanization.Http

structure Request where
  method : Text
  path : Text
  headers : List (Text × Text)
  body : Utf8.Bytes

inductive Endpoint
  | transliterate
  | scripts
  | reload
  deriving DecidableEq, Repr

namespace Endpoint

def all : List Endpoint := [transliterate, scripts, reload]

def path : Endpoint → Text
  | transliterate => "/v1/transliterate".codePoints
  | scripts => "/v1/scripts".codePoints
  | reload => "/v1/rules/reload".codePoints

def method : Endpoint → Text
  | transliterate => "POST".codePoints
  | scripts => "GET".codePoints
  | reload => "POST".codePoints

def ofPath? (path : Text) : Option Endpoint :=
  all.find? fun e => path == e.path || path == e.path ++ [0x0A]

end Endpoint

inductive StartFault
  | settings (faults : List Fault)
  | rules (e : Error)

structure App where
  settings : Settings
  registry : Registry

namespace App

def start (settings : Settings) (place : Place) : Except StartFault App :=
  let folder := RulesFolder.ofPath? settings.rulesDir place
  match (Registry.ofFolder settings.builtInTables folder).reload with
  | (.ok _, registry) => .ok ⟨settings, registry⟩
  | (.error e, _) => .error (.rules e)

def create (sources : Settings.Sources) (place : Place) : Except StartFault App :=
  match Settings.ofSources sources with
  | .ok settings => start settings place
  | .error faults => .error (.settings faults)

def service (a : App) : Service := ⟨a.settings.normalizeUnicode, .string a.settings.defaultCase.name⟩

def header (headers : List (Text × Text)) (name : String) : Text :=
  ((headers.find? fun (key, _) => key.lower == name.codePoints).map Prod.snd).getD []

def refusal? (a : App) (headers : List (Text × Text)) : Option Response :=
  let scheme := "Bearer ".codePoints
  let given := header headers "authorization"
  if !a.settings.requireAuth then none
  else if !given.startsWith scheme then
    some (.fail 401 "Missing Authorization Bearer token".codePoints)
  else if Text.trim (given.drop scheme.length) != a.settings.apiKey then
    some (.fail 401 "Invalid API key".codePoints)
  else none

def transliterate (a : App) (payload : Payload) : Response :=
  if a.settings.maxInputChars < payload.input.length then
    .fail 422 ("input is longer than ".codePoints ++ Text.ofInt a.settings.maxInputChars ++
      " characters".codePoints)
  else
    let case := match payload.case with
      | some mode => Json.string mode.name
      | none => .null
    match a.service.answer a.registry.catalog
        ⟨some payload.input, payload.script, payload.language, case, payload.clusters⟩ with
    | .ok answer => ⟨200, .transliteration answer payload.clusters⟩
    | .error (.unknownName name) => .fail 404 (Error.unknownName name).text
    | .error _ => .failure

def reload (a : App) : Response × App :=
  match a.registry.reload with
  | (.ok catalog, registry) => (⟨200, .reloaded catalog⟩, { a with registry })
  | (.error e, registry) =>
    (if e.code?.isSome then .fail 422 e.text else .failure, { a with registry })

def payload (request : Request) : Except Payload.Refusal Payload :=
  Payload.ofBytes (Payload.isJsonType (header request.headers "content-type")) request.body

/-- The body is checked before the key, and the key before anything else. -/
def serve (a : App) (endpoint : Endpoint) (request : Request) : Response × App :=
  match endpoint with
  | .transliterate =>
    match payload request with
    | .error (.faults faults) => (⟨422, .faults faults⟩, a)
    | .error .unreadable => (.fail 400 "There was an error parsing the body".codePoints, a)
    | .ok payload => ((a.refusal? request.headers).getD (a.transliterate payload), a)
  | .scripts => ((a.refusal? request.headers).getD ⟨200, .scripts a.registry.catalog⟩, a)
  | .reload =>
    match a.refusal? request.headers with
    | some response => (response, a)
    | none => a.reload

def location (request : Request) : Location :=
  let host := header request.headers "host"
  ⟨if Host.isHeader host then some host else none,
    (request.path.reverse.dropWhile (· == 0x2F)).reverse⟩

/-- Slashes after the path of an endpoint lead to that path. -/
def route (a : App) (method : Text) (request : Request) : Response × App :=
  let location := location request
  match Endpoint.ofPath? request.path, Endpoint.ofPath? location.path with
  | some endpoint, _ =>
    if endpoint.method == method then a.serve endpoint request
    else (.fail 405 "Method Not Allowed".codePoints, a)
  | none, some _ => (⟨307, .moved location⟩, a)
  | none, none => (.fail 404 "Not Found".codePoints, a)

def handle (a : App) (request : Request) : Response × App :=
  let method := request.method.upper
  let (response, a) := a.route method request
  (if method == "HEAD".codePoints then response.sent.withoutBody else response.sent, a)

inductive Event
  | write (name : Text) (entry : Entry)
  | remove (name : Text)
  | request (r : Request)

def step (a : App) : Event → Option Response × App
  | .write name entry => (none, { a with registry := a.registry.write name entry })
  | .remove name => (none, { a with registry := a.registry.remove name })
  | .request r =>
    let (response, a) := a.handle r
    (some response, a)

def run (a : App) : List Event → List (Option Response) × App
  | [] => ([], a)
  | event :: events =>
    let (response, a) := a.step event
    let (responses, a) := a.run events
    (response :: responses, a)

end Romanization.Http.App
