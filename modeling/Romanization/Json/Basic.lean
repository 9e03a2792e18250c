import Romanization.Decimal.Binary64
import Romanization.Dictionary

namespace Romanization

inductive Json
  | null
  | bool (b : Bool)
  | int (n : Int)
  | float (x : Binary64)
  | string (t : Text)
  | array (items : List Json)
  | object (members : List (Text × Json))

namespace Json

/-- The values that stand for nothing: null, false, zero and whatever is empty. -/
def isVoid : Json → Bool
  | null => true
  | bool b => !b
  | int n => n == 0
  | float x => x.isZero
  | string t => t.isEmpty
  | array items => items.isEmpty
  | object members => members.isEmpty

def string? : Json → Option Text
  | string t => some t
  | _ => none

def isKey : Json → Bool
  | array _ | object _ => false
  | _ => true

def strings? : Json → Option (List Text)
  | array items => items.mapM string?
  | _ => none

def member? (members : List (Text × Json)) (key : Text) : Option Json :=
  Dictionary.find? members key

end Romanization.Json
