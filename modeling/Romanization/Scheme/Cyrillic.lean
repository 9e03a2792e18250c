import Romanization.RuleTable.Basic
import Romanization.Text.Case

namespace Romanization.Scheme.Cyrillic

def letters : List (String × String) := [
  ("а", "a"), ("б", "b"), ("в", "v"), ("г", "g"), ("д", "d"), ("е", "e"), ("ё", "yo"), ("ж", "zh"),
  ("з", "z"), ("и", "i"), ("й", "y"), ("к", "k"), ("л", "l"), ("м", "m"), ("н", "n"), ("о", "o"),
  ("п", "p"), ("р", "r"), ("с", "s"), ("т", "t"), ("у", "u"), ("ф", "f"), ("х", "kh"), ("ц", "ts"),
  ("ч", "ch"), ("ш", "sh"), ("щ", "shch"), ("ъ", ""), ("ы", "y"), ("ь", ""), ("э", "e"), ("ю", "yu"),
  ("я", "ya"),
  ("і", "i"), ("ї", "yi"), ("є", "ye"), ("ґ", "g"),
  ("ў", "w"),
  ("ђ", "dj"), ("ј", "j"), ("љ", "lj"), ("њ", "nj"), ("ћ", "c"), ("џ", "dz")]

def pairs : List (String × String) := [("ый", "y"), ("ье", "ye"), ("ъе", "ye")]

def languages : List String := ["ru", "uk", "be", "bg", "sr"]

def capitalized (t : Text) : Text := Text.upper (t.take 1) ++ t.drop 1

def casings : Rule → List Rule
  | (pattern, fragment) =>
    let small := [(pattern, fragment), (capitalized pattern, capitalized fragment)]
    if 1 < pattern.length then small ++ [(pattern.upper, fragment.upper)] else small

def rules : List Rule :=
  (letters ++ pairs).flatMap fun (pattern, fragment) => casings (pattern.codePoints, fragment.codePoints)

end Romanization.Scheme.Cyrillic
