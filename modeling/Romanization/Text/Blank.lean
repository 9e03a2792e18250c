import Romanization.Text.Basic
import Romanization.Unicode.NormalForm

namespace Romanization

def blankSpans : List (CodePoint × CodePoint) := [
  (0x09, 0x0D), (0x1C, 0x20), (0x85, 0x85), (0xA0, 0xA0), (0x1680, 0x1680), (0x2000, 0x200A),
  (0x2028, 0x2029), (0x202F, 0x202F), (0x205F, 0x205F), (0x3000, 0x3000)]

def isBlank (c : CodePoint) : Bool := c.within blankSpans

namespace Text

def trimStart (t : Text) : Text := t.dropWhile isBlank

def trimEnd (t : Text) : Text := (t.reverse.dropWhile isBlank).reverse

def trim (t : Text) : Text := t.trimStart.trimEnd

def pieces : Text → List Text
  | [] => [[]]
  | c :: t =>
    if isBlank c then [] :: pieces t
    else match pieces t with
      | [] => [[c]]
      | p :: ps => (c :: p) :: ps

def words (t : Text) : List Text := t.pieces.filter (!·.isEmpty)

def unwords (ws : List Text) : Text := [0x20].intercalate ws

def tidy (t : Text) (compose : Bool) : Text :=
  let t := t.trim
  unwords (if compose then Unicode.composed t else t).words

end Romanization.Text
