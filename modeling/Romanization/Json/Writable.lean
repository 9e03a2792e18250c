import Romanization.Json.Basic

namespace Romanization.Json

def isWhole (t : Text) : Bool := !t.any CodePoint.isSurrogate

mutual

def isWritable : Json → Bool
  | null | bool _ | int _ => true
  | float (.finite ..) => true
  | float _ => false
  | string t => isWhole t
  | array items => areWritable items
  | object members => haveWritable members

def areWritable : List Json → Bool
  | [] => true
  | v :: vs => isWritable v && areWritable vs

def haveWritable : List (Text × Json) → Bool
  | [] => true
  | (key, v) :: members => isWhole key && isWritable v && haveWritable members

end

end Romanization.Json
