import Signpost.Document

/-!
# Unresolved references

A reference names a document that is not registered. It stands in a sidebar, below a trail of
labels, or it is a link in the body of another document.
-/

namespace Signpost

inductive Origin where
  | sidebar (trail : List String)
  | link (source : DocumentId)
deriving DecidableEq, Repr

structure Unresolved where
  id : DocumentId
  origin : Origin
deriving DecidableEq, Repr

def trailText (trail : List String) : String :=
  Text.join " > " trail

namespace Unresolved

def place (u : Unresolved) : String :=
  match u.origin with
  | .link source => source
  | .sidebar [] => "(root)"
  | .sidebar trail => trailText trail

def message (u : Unresolved) : String :=
  match u.origin with
  | .sidebar _ => "Unknown document '" ++ u.id ++ "' referenced in " ++ u.place
  | .link source => "Broken link to '" ++ u.id ++ "' in document '" ++ source ++ "'"

end Unresolved

end Signpost
