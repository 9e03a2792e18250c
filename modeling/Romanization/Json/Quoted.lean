import Romanization.Decimal.Shortest
import Romanization.Json.Basic
import Romanization.Text.Quoted

namespace Romanization.Json

mutual

def quoted : Json → Text
  | null => "None".codePoints
  | bool true => "True".codePoints
  | bool false => "False".codePoints
  | int n => Text.ofInt n
  | float x => x.text
  | string t => t.quoted
  | array items => 0x5B :: quotedItems items ++ [0x5D]
  | object members => 0x7B :: quotedMembers members ++ [0x7D]

def quotedItems : List Json → Text
  | [] => []
  | [v] => quoted v
  | v :: vs => quoted v ++ ", ".codePoints ++ quotedItems vs

def quotedMembers : List (Text × Json) → Text
  | [] => []
  | [(k, v)] => k.quoted ++ ": ".codePoints ++ quoted v
  | (k, v) :: ms => k.quoted ++ ": ".codePoints ++ quoted v ++ ", ".codePoints ++ quotedMembers ms

end

def shown : Json → Text
  | string t => t
  | v => v.quoted

def kind : Json → Text
  | null => "NoneType".codePoints
  | bool _ => "bool".codePoints
  | int _ => "int".codePoints
  | float _ => "float".codePoints
  | string _ => "str".codePoints
  | array _ => "list".codePoints
  | object _ => "dict".codePoints

end Romanization.Json
