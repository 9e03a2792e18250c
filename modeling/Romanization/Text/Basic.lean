import Romanization.CodePoint

namespace Romanization.Text

def position (t : Text) (i : Int) : Nat :=
  if i < 0 then (t.length + i).toNat else i.toNat

/-- The units from one index to another, none where the first is not before the second. -/
def slice (t : Text) (start stop : Int) : Text :=
  (t.take (t.position stop)).drop (t.position start)

def startsWith (t : Text) (start : Text) : Bool := start.isPrefixOf t

def endsWith (t : Text) (tail : Text) : Bool := tail.isSuffixOf t

def before : Text → Text → Bool
  | _, [] => false
  | [], _ :: _ => true
  | a :: s, b :: t => a < b || (a == b && before s t)

def split (separator : CodePoint) : Text → List Text
  | [] => [[]]
  | c :: t =>
    if c = separator then [] :: split separator t
    else match split separator t with
      | [] => [[c]]
      | p :: ps => (c :: p) :: ps

def insertSorted (t : Text) : List Text → List Text
  | [] => [t]
  | u :: us => if u.before t then u :: insertSorted t us else t :: u :: us

def sort (ts : List Text) : List Text := ts.foldr insertSorted []

def ofNat (n : Nat) : Text := (Nat.toDigits 10 n).map Char.toNat

def ofInt : Int → Text
  | .ofNat n => ofNat n
  | .negSucc n => 0x2D :: ofNat (n + 1)

end Romanization.Text
