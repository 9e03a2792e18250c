import Romanization.RuleTable.Basic
import Romanization.Script.Basic
import Romanization.Unicode.NormalForm

/-! Plain English spelling of four Brahmic scripts. Their blocks share one layout, so that one table of
offsets gives the rules of all of them. A consonant alone carries the vowel `a`; the virama takes it
away, a vowel sign puts another in its place, and a nukta after it makes another consonant. -/

namespace Romanization.Scheme.Brahmic

abbrev Sounds := List (Nat × String)

def viramaOffset : Nat := 0x4D

def nuktaOffset : Nat := 0x3C

def vowels : Sounds := [
  (0x05, "a"), (0x06, "aa"), (0x07, "i"), (0x08, "ee"), (0x09, "u"), (0x0A, "oo"), (0x0B, "ri"),
  (0x0C, "lri"), (0x0D, "e"), (0x0E, "e"), (0x0F, "e"), (0x10, "ai"), (0x11, "o"), (0x12, "o"),
  (0x13, "o"), (0x14, "au"), (0x60, "ri"), (0x61, "lri")]

def vowelSigns : Sounds := [
  (0x3E, "aa"), (0x3F, "i"), (0x40, "ee"), (0x41, "u"), (0x42, "oo"), (0x43, "ri"), (0x44, "ri"),
  (0x45, "e"), (0x46, "e"), (0x47, "e"), (0x48, "ai"), (0x49, "o"), (0x4A, "o"), (0x4B, "o"),
  (0x4C, "au"), (0x62, "lri"), (0x63, "lri")]

def consonants : Sounds := [
  (0x15, "k"), (0x16, "kh"), (0x17, "g"), (0x18, "gh"), (0x19, "ng"),
  (0x1A, "ch"), (0x1B, "chh"), (0x1C, "j"), (0x1D, "jh"), (0x1E, "ny"),
  (0x1F, "t"), (0x20, "th"), (0x21, "d"), (0x22, "dh"), (0x23, "n"),
  (0x24, "t"), (0x25, "th"), (0x26, "d"), (0x27, "dh"), (0x28, "n"), (0x29, "n"),
  (0x2A, "p"), (0x2B, "ph"), (0x2C, "b"), (0x2D, "bh"), (0x2E, "m"),
  (0x2F, "y"), (0x30, "r"), (0x31, "r"), (0x32, "l"), (0x33, "l"), (0x34, "zh"), (0x35, "v"),
  (0x36, "sh"), (0x37, "sh"), (0x38, "s"), (0x39, "h")]

def nuktaConsonants : Sounds := [
  (0x15, "q"), (0x16, "kh"), (0x17, "gh"), (0x1C, "z"), (0x21, "r"), (0x22, "rh"), (0x2B, "f"),
  (0x2F, "y")]

def signs : Sounds := [
  (0x01, "n"), (0x02, "n"), (0x03, "h"), (0x3D, ""), (0x50, "om"), (0x64, "."), (0x65, "."),
  (viramaOffset, ""), (nuktaOffset, "")]

def digits : Sounds := [
  (0x66, "0"), (0x67, "1"), (0x68, "2"), (0x69, "3"), (0x6A, "4"), (0x6B, "5"), (0x6C, "6"),
  (0x6D, "7"), (0x6E, "8"), (0x6F, "9")]

structure Block where
  script : Script
  languages : List String
  start : CodePoint
  extraConsonants : Sounds
  extraSigns : Sounds

def devanagari : Block where
  script := .devanagari
  languages := ["hi", "mr", "ne", "sa", "kok", "mai"]
  start := 0x0900
  extraConsonants := [
    (0x58, "q"), (0x59, "kh"), (0x5A, "gh"), (0x5B, "z"), (0x5C, "r"), (0x5D, "rh"), (0x5E, "f"),
    (0x5F, "y")]
  extraSigns := []

def bengali : Block where
  script := .bengali
  languages := ["bn", "as"]
  start := 0x0980
  extraConsonants := [(0x5C, "r"), (0x5D, "rh"), (0x5F, "y")]
  extraSigns := [(0x4E, "t")]

def gurmukhi : Block where
  script := .gurmukhi
  languages := ["pa"]
  start := 0x0A00
  extraConsonants := [(0x59, "kh"), (0x5A, "gh"), (0x5B, "z"), (0x5C, "r"), (0x5E, "f")]
  extraSigns := [(0x70, "n"), (0x71, "")]

def gujarati : Block where
  script := .gujarati
  languages := ["gu"]
  start := 0x0A80
  extraConsonants := []
  extraSigns := []

namespace Block

def virama (b : Block) : CodePoint := b.start + viramaOffset

def nukta (b : Block) : CodePoint := b.start + nuktaOffset

def letters (b : Block) (sounds : Sounds) : List Rule :=
  sounds.map fun (offset, sound) => ([b.start + offset], sound.codePoints)

def signRules (b : Block) : List Rule := b.letters vowelSigns

def listedConsonants (b : Block) : Dictionary Text :=
  b.letters consonants ++
    (b.letters nuktaConsonants).map (fun (letter, sound) => (letter ++ [b.nukta], sound)) ++
    b.letters b.extraConsonants

/-- A consonant that canonical decomposition takes apart reads the same in both spellings. -/
def consonantSounds (b : Block) : Dictionary Text :=
  b.listedConsonants.foldl (fun d (letter, sound) => d.putNew (Unicode.decomposed letter) sound)
    b.listedConsonants

def consonantRules (b : Block) (letter sound : Text) : List Rule :=
  (letter, sound ++ "a".codePoints) :: (letter ++ [b.virama], sound) ::
    b.signRules.map fun (sign, vowel) => (letter ++ sign, sound ++ vowel)

def rules (b : Block) : List Rule :=
  b.letters vowels ++
    b.consonantSounds.flatMap (fun (letter, sound) => b.consonantRules letter sound) ++
    b.signRules ++ b.letters signs ++ b.letters b.extraSigns ++ b.letters digits

end Romanization.Scheme.Brahmic.Block
