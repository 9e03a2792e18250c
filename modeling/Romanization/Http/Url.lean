import Romanization.Http.Host
import Romanization.Text.Blank
import Romanization.Unicode.Category

namespace Romanization.Http

structure Authority where
  userinfo : Text
  host : Text
  port : Option Int

structure Url where
  scheme : Text
  authority : Authority
  path : Text

namespace Url

inductive Fault
  | malformed
  | unencodable
  deriving DecidableEq, Repr

def maxLength : Nat := 65536

def isControl (c : CodePoint) : Bool := c < 0x20 || c == 0x7F

def isLetter (c : CodePoint) : Bool := c.within [(0x41, 0x5A), (0x61, 0x7A)]

def isSchemeUnit (c : CodePoint) : Bool :=
  isLetter c || isDigit c || c == 0x2B || c == 0x2D || c == 0x2E

def splitScheme (t : Text) : Text × Text :=
  let units := t.takeWhile isSchemeUnit
  match t.drop units.length with
  | 0x3A :: rest => if units.head?.all isLetter then (units, rest) else ([], t)
  | _ => ([], t)

def splitAuthority : Text → Text × Text
  | 0x2F :: 0x2F :: t => t.span fun c => c != 0x2F && c != 0x3F && c != 0x23
  | t => ([], t)

/-- One dot stays at a segment and two go back by one, but not beyond a slash at the start. The segments
up to here are given from their end. -/
def follow (done : List Text) (segment : Text) : List Text :=
  if segment == [0x2E] then done
  else if segment == [0x2E, 0x2E] then if done == [[]] then done else done.tail
  else segment :: done

def withoutDots (path : Text) : Text :=
  [0x2F].intercalate ((path.split 0x2F).foldl follow []).reverse

end Url

namespace Authority

def splitUserinfo (t : Text) : Text × Text :=
  let last := (t.reverse.takeWhile (· != 0x40)).reverse
  (t.take (t.length - last.length - 1), last)

def splitHost (t : Text) : Text × Text :=
  if t.head? == some 0x5B && t.contains 0x5D then
    let rest := (t.reverse.takeWhile (· != 0x5D)).reverse
    (t.take (t.length - rest.length), rest)
  else t.span (· != 0x3A)

def maxDigits : Nat := 4300

def digits? (t : Text) : Option Nat :=
  let runs := Text.split 0x5F (t.map Unicode.plainDigit)
  let digits := runs.flatten
  if runs.all (fun run => !run.isEmpty && run.all isDigit) && digits.length ≤ maxDigits then
    some (digitsValue digits)
  else none

def port? (t : Text) : Option Int :=
  match Text.trim t with
  | 0x2B :: t => (digits? t).map Int.ofNat
  | 0x2D :: t => (digits? t).map fun n => -Int.ofNat n
  | t => (digits? t).map Int.ofNat

def ofText (t : Text) : Except Url.Fault Authority := do
  let (userinfo, t) := splitUserinfo t
  if userinfo.any CodePoint.isSurrogate then throw .unencodable
  let (host, t) := splitHost t
  let some host := Host.ofText? host | throw .malformed
  match if t.head? == some 0x3A then t.tail else t with
  | [] => return ⟨userinfo, host, none⟩
  | port =>
    let some port := port? port | throw .malformed
    return ⟨userinfo, host, some port⟩

def isEmpty (a : Authority) : Bool := a.userinfo.isEmpty && a.host.isEmpty && a.port.isNone

end Authority

namespace Url

/-- A path that stands alone begins neither with two slashes nor with a colon. -/
def isPath (path : Text) : Bool := !path.startsWith [0x2F, 0x2F] && !path.startsWith [0x3A]

def ofText (t : Text) : Except Fault Url := do
  if maxLength < t.length || t.any isControl then throw .malformed
  let (scheme, t) := splitScheme t
  let (authority, t) := splitAuthority t
  let authority ← Authority.ofText authority
  let path := t.takeWhile fun c => c != 0x3F && c != 0x23
  let alone := scheme.isEmpty && authority.isEmpty
  if alone && !isPath path then throw .malformed
  if t.any CodePoint.isSurrogate then throw .unencodable
  return ⟨scheme, authority, if alone then path else withoutDots path⟩

def isAbsolute (u : Url) : Bool := !u.scheme.isEmpty && !u.authority.host.isEmpty

def unescape : Text → Text
  | [] => []
  | 0x25 :: a :: b :: t =>
    match hexValue? a, hexValue? b with
    | some high, some low =>
      if high < 8 then (high * 16 + low) :: unescape t else 0x25 :: unescape (a :: b :: t)
    | _, _ => 0x25 :: unescape (a :: b :: t)
  | c :: t => c :: unescape t
termination_by t => t.length

end Romanization.Http.Url
