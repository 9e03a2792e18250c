import Romanization.CodePoint

namespace Romanization

inductive Script
  | devanagari
  | bengali
  | gurmukhi
  | gujarati
  | cyrillic
  | latin
  deriving DecidableEq, Repr

namespace Script

def all : List Script := [devanagari, bengali, gurmukhi, gujarati, cyrillic, latin]

def name : Script → Text
  | devanagari => "devanagari".codePoints
  | bengali => "bengali".codePoints
  | gurmukhi => "gurmukhi".codePoints
  | gujarati => "gujarati".codePoints
  | cyrillic => "cyrillic".codePoints
  | latin => "latin".codePoints

def spans : Script → List (CodePoint × CodePoint)
  | devanagari => [(0x0900, 0x097F), (0xA8E0, 0xA8FF)]
  | bengali => [(0x0980, 0x09FF)]
  | gurmukhi => [(0x0A00, 0x0A7F)]
  | gujarati => [(0x0A80, 0x0AFF)]
  | cyrillic => [(0x0400, 0x04FF)]
  | latin => [(0x41, 0x5A), (0x61, 0x7A), (0xC0, 0x24F)]

def contains (s : Script) (c : CodePoint) : Bool := c.within s.spans

def ofCodePoint? (c : CodePoint) : Option Script := all.find? (·.contains c)

def ofText? (t : Text) : Option Script := all.find? fun s => t.any s.contains

end Romanization.Script
