import Signpost.Document

/-!
# Navigation items

A navigation is a tree whose leaves refer to documents and whose inner nodes are categories with a
label.
-/

namespace Signpost

/-- A node of a navigation tree. -/
inductive Item where
  | doc (id : DocumentId) (label : Option String)
  | category (label : String) (collapsed : Bool) (items : List Item)
deriving Repr, BEq, Inhabited

namespace Item

mutual

def ids : Item → List DocumentId
  | .doc id _ => [id]
  | .category _ _ items => idsOf items

def idsOf : List Item → List DocumentId
  | [] => []
  | item :: items => item.ids ++ idsOf items

end

mutual

def docCount : Item → Nat
  | .doc _ _ => 1
  | .category _ _ items => docCountOf items

def docCountOf : List Item → Nat
  | [] => 0
  | item :: items => item.docCount + docCountOf items

end

mutual

/-- The labels of the categories around the first leaf with an id, outermost first. -/
def trailTo? (id : DocumentId) : Item → Option (List String)
  | .doc other _ => if other = id then some [] else none
  | .category label _ items => (trailToIn? id items).map (label :: ·)

def trailToIn? (id : DocumentId) : List Item → Option (List String)
  | [] => none
  | item :: items =>
    match item.trailTo? id with
    | some trail => some trail
    | none => trailToIn? id items

end

end Item

end Signpost
