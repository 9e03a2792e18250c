import Romanization.Dictionary
import Romanization.Text.Blank

/-! Files of `NAME=value` lines, with blank lines and comments after `#`. A name may follow `export` and
may stand in apostrophes; a name alone has no value. A value in quotes may go on over several lines. In
every value `${NAME}` stands for what an earlier line or the environment gives to a name. -/

namespace Romanization.EnvFile

def withLineFeeds : Text → Text
  | [] => []
  | 0x0D :: 0x0A :: t => 0x0A :: withLineFeeds t
  | c :: t => (if c = 0x0D then 0x0A else c) :: withLineFeeds t

def isBlankInLine (c : CodePoint) : Bool := isBlank c && c != 0x0A

def skipBlanks (t : Text) : Text := t.dropWhile isBlankInLine

def skipLine (t : Text) : Text := t.dropWhile (· != 0x0A)

def skipExport (t : Text) : Text :=
  let word := "export".codePoints
  let rest := t.drop word.length
  if word.isPrefixOf t && rest.head?.any isBlankInLine then skipBlanks rest else t

def readName (t : Text) : Option (Option Text × Text) :=
  match t with
  | 0x23 :: _ => some (none, t)
  | 0x27 :: t =>
    let name := t.takeWhile (· != 0x27)
    let rest := t.drop name.length
    if name.isEmpty || rest.isEmpty then none else some (some name, rest.tail)
  | t =>
    let name := t.takeWhile fun c => c != 0x3D && c != 0x23 && !isBlank c
    if name.isEmpty then none else some (some name, t.drop name.length)

def escaped? (quote c : CodePoint) : Option CodePoint :=
  if c = 0x5C ∨ c = 0x27 then some c
  else if quote = 0x27 then none
  else if c = 0x22 then some 0x22
  else if c = 0x61 then some 0x07
  else if c = 0x62 then some 0x08
  else if c = 0x66 then some 0x0C
  else if c = 0x6E then some 0x0A
  else if c = 0x72 then some 0x0D
  else if c = 0x74 then some 0x09
  else if c = 0x76 then some 0x0B
  else none

def readQuoted (quote : CodePoint) : Text → Option (Text × Text)
  | [] => none
  | 0x5C :: c :: t => do
    let (value, rest) ← readQuoted quote t
    match escaped? quote c with
    | some d => return (d :: value, rest)
    | none => return (0x5C :: c :: value, rest)
  | c :: t =>
    if c = quote then some ([], t)
    else do
      let (value, rest) ← readQuoted quote t
      return (c :: value, rest)

def uncommented : Text → Text
  | [] => []
  | c :: t => if isBlank c && (Text.trimStart t).head? == some 0x23 then [] else c :: uncommented t

def readValue (t : Text) : Except Text (Text × Text) :=
  match skipBlanks t with
  | [] => .ok ([], [])
  | c :: rest =>
    if c = 0x27 ∨ c = 0x22 then
      match readQuoted c rest with
      | some read => .ok read
      | none => .error (c :: rest)
    else
      let line := t.takeWhile (· != 0x0A)
      .ok (Text.trim (uncommented line), t.drop line.length)

abbrev Entry := Text × Option Text

def readEntry (t : Text) : Except Text (Option Entry × Text) := do
  let t := skipExport t
  let (name, t) ← match readName t with
    | some read => .ok read
    | none => .error t
  let (value, t) ← match skipBlanks t with
    | 0x3D :: t => (readValue t).map fun (value, t) => (some value, t)
    | t => .ok (none, t)
  match skipBlanks t with
  | [] => return (name.map (·, value), [])
  | c :: rest =>
    if c = 0x0A ∨ c = 0x23 then return (name.map (·, value), skipLine (c :: rest))
    else .error (c :: rest)

/-- The entries of a text. Where reading stops, the rest of the line is skipped. -/
def readEntries : (fuel : Nat) → Text → List Entry
  | 0, _ => []
  | fuel + 1, t =>
    match t.trimStart with
    | [] => []
    | t =>
      match readEntry t with
      | .ok (entry, rest) => entry.toList ++ readEntries fuel rest
      | .error rest => readEntries fuel (skipLine rest)

def reference? (t : Text) : Option (Text × Text × Text) :=
  let name := t.takeWhile fun c => c != 0x7D && c != 0x3A
  match t.drop name.length with
  | 0x7D :: rest => some (name, [], rest)
  | 0x3A :: 0x2D :: t =>
    let other := t.takeWhile (· != 0x7D)
    match t.drop other.length with
    | _ :: rest => some (name, other, rest)
    | [] => none
  | _ => none

def expand (given : Text → Option Text) : (fuel : Nat) → Text → Text
  | 0, t => t
  | fuel + 1, 0x24 :: 0x7B :: t =>
    match reference? t with
    | some (name, other, rest) => (given name).getD other ++ expand given fuel rest
    | none => 0x24 :: 0x7B :: expand given fuel t
  | fuel + 1, c :: t => c :: expand given fuel t
  | _, [] => []

def given (environment : Dictionary Text) (known : Dictionary (Option Text)) (name : Text) :
    Option Text :=
  match known.find? name with
  | some value => some (value.getD [])
  | none => environment.find? name

def resolve (environment : Dictionary Text) (entries : List Entry) : Dictionary (Option Text) :=
  entries.foldl (fun known (name, value) =>
    known.put name (value.map fun t => expand (given environment known) t.length t)) []

def entries (environment : Dictionary Text) (t : Text) : Dictionary (Option Text) :=
  let t := match withLineFeeds t with
    | 0xFEFF :: t => t
    | t => t
  resolve environment (readEntries (t.length + 1) t)

end Romanization.EnvFile
