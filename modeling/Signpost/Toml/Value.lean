import Signpost.Number

/-!
# TOML values

What stands on the right of a key. Numbers are kept exactly, and dates and times as they are
written.
-/

namespace Signpost.Toml

inductive Value where
  | text (value : String)
  | bool (value : Bool)
  | number (value : Option Number)
  | moment (text : String)
  | array (items : List Value)
  | table (entries : List (String × Value))
deriving Repr, Inhabited

def Value.asText? : Value → Option String
  | .text s => some s
  | _ => none

end Signpost.Toml
