import Signpost.Number

/-!
# JSON values

The values that a sidebars file and every printed answer are made of. An object lists its entries in
order.
-/

namespace Signpost

inductive Json where
  | null
  | bool (value : Bool)
  | num (value : Number)
  | str (value : String)
  | arr (items : List Json)
  | obj (fields : List (String × Json))
deriving Repr, Inhabited, BEq

namespace Json

def get? (key : String) : Json → Option Json
  | .obj fields => fields.lookup key
  | _ => none

def asString? : Json → Option String
  | .str s => some s
  | _ => none

/-- Puts an entry into an object; an entry with the same key is replaced where it stands. -/
def put (key : String) (value : Json) : List (String × Json) → List (String × Json)
  | [] => [(key, value)]
  | (k, v) :: rest => if k = key then (key, value) :: rest else (k, v) :: put key value rest

def kind : Json → String
  | .null => "null"
  | .bool _ => "a boolean"
  | .num _ => "a number"
  | .str _ => "a string"
  | .arr _ => "a sequence"
  | .obj _ => "an object"

end Json

end Signpost
