import Signpost.Outline
import Signpost.Item
import Signpost.Policy
import Signpost.Registry

/-!
# Reading a navigation spec

A spec is a sequence of nodes, or one node. Reading it against the registry gives the navigation
items and, beside them, the references to unknown documents, which are left out of the items, and
the categories that were declared without any items. A malformed node, or a known document that is
referred to a second time, makes the whole spec fail.
-/

namespace Signpost

inductive SpecStep where
  | entry (index : Nat)
  | item (index : Nat)
deriving DecidableEq, Repr

def SpecStep.text : SpecStep → String
  | .entry index => "[" ++ toString index ++ "]"
  | .item index => ".items[" ++ toString index ++ "]"

structure SpecLocation where
  root : String
  steps : List SpecStep := []
deriving DecidableEq, Repr

namespace SpecLocation

def below (l : SpecLocation) (step : SpecStep) : SpecLocation :=
  { l with steps := l.steps ++ [step] }

def path (l : SpecLocation) : String :=
  l.root ++ String.join (l.steps.map SpecStep.text)

def text (l : SpecLocation) : String :=
  if l.path = "" then "(root)" else l.path

end SpecLocation

inductive SpecError where
  | invalid (location : SpecLocation) (fault : SpecFault)
  | duplicateReference (id : DocumentId) (location : SpecLocation)
deriving DecidableEq, Repr

namespace SpecError

def location : SpecError → SpecLocation
  | .invalid location _ => location
  | .duplicateReference _ location => location

def message : SpecError → String
  | .invalid location fault =>
    "Invalid navigation spec at " ++ location.text ++ ": " ++ fault.message
  | .duplicateReference id location =>
    "Document '" ++ id ++ "' is referenced more than once (again at " ++ location.text ++ ")"

end SpecError

/-- What a spec says. -/
structure ParsedSpec where
  items : List Item := []
  unresolved : List Unresolved := []
  emptyCategories : List String := []

namespace ParsedSpec

def append (p q : ParsedSpec) : ParsedSpec :=
  { items := p.items ++ q.items
    unresolved := p.unresolved ++ q.unresolved
    emptyCategories := p.emptyCategories ++ q.emptyCategories }

instance : Append ParsedSpec := ⟨append⟩

end ParsedSpec

namespace Outline

mutual

/-- What a node says. `known` tells which documents are registered, `trail` is the list of labels
around the node and `seen` are the documents that were referred to before it. -/
def read (known : DocumentId → Bool) (trail : List String) (location : SpecLocation)
    (seen : List DocumentId) : Outline → Except SpecError ParsedSpec
  | .malformed fault => .error (.invalid location fault)
  | .reference id label =>
    if known id then
      if id ∈ seen then .error (.duplicateReference id location)
      else .ok { items := [.doc id label] }
    else .ok { unresolved := [⟨id, .sidebar trail⟩] }
  | .group label collapsed entries =>
    match readAll known (trail ++ [label]) (fun i => location.below (.item i)) 0 seen entries with
    | .error e => .error e
    | .ok inner =>
      .ok
        { items := [.category label collapsed inner.items]
          unresolved := inner.unresolved
          emptyCategories :=
            if entries.isEmpty then [trailText (trail ++ [label])] else inner.emptyCategories }

def readAll (known : DocumentId → Bool) (trail : List String) (place : Nat → SpecLocation)
    (index : Nat) (seen : List DocumentId) : List Outline → Except SpecError ParsedSpec
  | [] => .ok {}
  | node :: nodes =>
    match read known trail (place index) seen node with
    | .error e => .error e
    | .ok first =>
      match readAll known trail place (index + 1) (seen ++ Item.idsOf first.items) nodes with
      | .error e => .error e
      | .ok rest => .ok (first ++ rest)

end

end Outline

namespace Spec

/-- What a spec says, where `root` is the name of the sidebar in locations and `trail` the labels
around the whole of it. -/
def parseAt (known : DocumentId → Bool) (root : String) (trail : List String) (spec : Json) :
    Except SpecError ParsedSpec :=
  let top : SpecLocation := ⟨root, []⟩
  match spec with
  | .arr values =>
    Outline.readAll known trail (fun i => top.below (.entry i)) 0 [] (Outline.ofJsonList values)
  | .str _ | .obj _ => Outline.read known trail top [] (Outline.ofJson spec)
  | .null | .bool _ | .num _ => .error (.invalid top (.notASpec spec.kind))

def parse (spec : Json) (registry : Registry) : Except SpecError ParsedSpec :=
  parseAt registry.contains "" [] spec

def parseNamed (name : String) (spec : Json) (registry : Registry) :
    Except SpecError ParsedSpec :=
  parseAt registry.contains name [name] spec

end Spec

end Signpost
