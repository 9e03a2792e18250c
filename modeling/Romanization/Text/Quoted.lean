import Romanization.Text.Basic
import Romanization.Unicode.Category

namespace Romanization.Text

def hexDigit (n : Nat) : CodePoint := if n < 10 then 0x30 + n else 0x57 + n

def hex : (width : Nat) → Nat → Text
  | 0, _ => []
  | width + 1, n => hex width (n / 16) ++ [hexDigit (n % 16)]

def escaped (quote c : CodePoint) : Text :=
  if c = quote ∨ c = 0x5C then [0x5C, c]
  else if c = 0x0A then "\\n".codePoints
  else if c = 0x0D then "\\r".codePoints
  else if c = 0x09 then "\\t".codePoints
  else if Unicode.isPrintable c then [c]
  else if c < 0x100 then "\\x".codePoints ++ hex 2 c
  else if c < 0x10000 then "\\u".codePoints ++ hex 4 c
  else "\\U".codePoints ++ hex 8 c

def quoted (t : Text) : Text :=
  let quote := if t.contains 0x27 && !t.contains 0x22 then 0x22 else 0x27
  quote :: t.flatMap (escaped quote) ++ [quote]

end Romanization.Text
