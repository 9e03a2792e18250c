import Romanization.Http.App
import Romanization.Http.Url
import Romanization.Text.Quoted

namespace Romanization.Http.Client

structure Request where
  method : Text
  target : Text
  headers : List (Text × Text)
  body : Text

inductive Fault
  | malformedUrl
  | unencodable
  | unknownScheme (scheme : Text)
  | unreadablePort (port : Text)
  | webSocket
  | malformedLocation

def Fault.ofUrl : Url.Fault → Fault
  | .malformed => malformedUrl
  | .unencodable => unencodable

def Fault.text? : Fault → Option Text
  | unknownScheme scheme => some scheme.quoted
  | unreadablePort port => some ("invalid literal for int() with base 10: ".codePoints ++ port.quoted)
  | _ => none

structure Origin where
  scheme : Text
  host : Text
  port : Int
  deriving DecidableEq

def base : Origin := ⟨"http".codePoints, "testserver".codePoints, 80⟩

def ports : List (String × Int) := [("http", 80), ("ws", 80), ("https", 443), ("wss", 443)]

def isWebSocket (scheme : Text) : Bool := scheme == "ws".codePoints || scheme == "wss".codePoints

/-- The port is read after the first colon of the authority, which an address of eight groups has in
front of its port. There the usual port is left out if the scheme is written in small letters. -/
def origin (scheme : Text) (authority : Authority) : Except Fault Origin :=
  match ports.find? fun (name, _) => scheme.lower == name.codePoints with
  | none => .error (.unknownScheme scheme.lower)
  | some (_, usual) =>
    match authority.host.dropWhile (· != 0x3A) with
    | _ :: groups =>
      let shown : Text :=
        match authority.port with
        | none => []
        | some port =>
          if port == usual && scheme.lower == scheme then [] else 0x3A :: Text.ofInt port
      .error (.unreadablePort (groups ++ 0x5D :: shown))
    | [] =>
      if isWebSocket scheme.lower then .error .webSocket
      else .ok ⟨scheme.lower, authority.host, authority.port.getD usual⟩

def served (path : Text) : Text := Url.unescape (Url.unescape (if path.isEmpty then [0x2F] else path))

def isAuthorization (h : Text × Text) : Bool := h.1.lower == "authorization".codePoints

def credentials (authority : Authority) (headers : List (Text × Text)) : List (Text × Text) :=
  if authority.userinfo.all (· == 0x3A) && authority.userinfo.length ≤ 1 then headers
  else headers.filter (!isAuthorization ·)

def resolve (url : Url) (headers : List (Text × Text)) :
    Except Fault (Origin × Text × List (Text × Text)) := do
  if url.isAbsolute then
    return (← origin url.scheme url.authority, served url.path, credentials url.authority headers)
  else
    let path := 0x2F :: url.path.dropWhile (· == 0x2F)
    return (base, served (Url.withoutDots path), headers)

def escaped (host : Text) : Text :=
  host.flatMap fun c => if "\";\\`\x7b|\x7d".codePoints.contains c then 0x25 :: Text.hex 2 c else [c]

def forwarded (source : Origin) (location : Location) (headers : List (Text × Text)) :
    Except Fault (List (Text × Text)) := do
  let target ← match location.authority with
    | none => pure { source with host := escaped source.host }
    | some authority =>
      match Authority.ofText (escaped authority) with
      | .error _ => throw .malformedLocation
      | .ok authority => origin source.scheme authority
  return if target = source then headers else headers.filter (!isAuthorization ·)

def isEncodable (r : Request) : Bool :=
  r.headers.all (fun (name, v) => Name.isAscii name && Name.isAscii v) &&
    !r.body.any CodePoint.isSurrogate

def exchange (a : App) (r : Request) : Except Fault (Response × App) := do
  let url ← (Url.ofText r.target).mapError .ofUrl
  if !isEncodable r then throw .unencodable
  let (origin, path, headers) ← resolve url r.headers
  let request : Http.Request := ⟨r.method, path, headers, Utf8.encode r.body⟩
  let (response, a) := a.handle request
  match response.message with
  | .moved location =>
    let headers ← forwarded origin location headers
    return a.handle { request with path := location.path, headers }
  | _ => return (response, a)

end Romanization.Http.Client
