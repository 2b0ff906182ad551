import Signpost.Json
import Signpost.Yaml.Node
import Signpost.Yaml.Scalar

/-!
# The value of a YAML document

A document is read as a JSON value. Collections nest at most 128 deep, nodes that stand elsewhere
are copied a limited number of times, keys are taken by their text, and a key that is repeated keeps
its last value.
-/

namespace Signpost.Yaml

def maxDepth : Nat := 128

/-- How often the nodes of a document may be copied for each of its parts. -/
def copiesPerPart : Nat := 100

def standardTag (name : String) : String := "tag:yaml.org,2002:" ++ name

def isLocalTag (tag : String) : Bool :=
  Text.beginsWith tag "!"

def ofFloat : Option Number → Json
  | some n => .num n
  | none => .null

def plainValue (s : String) : Option Json :=
  if s = "" || isNull s then some .null
  else
    match bool? s with
    | some b => some (.bool b)
    | none =>
      match wholeOf s.toList with
      | .fits n => some (.num (.int n))
      | .tooLarge => none
      | .other =>
        if hasNeedlessZero s.toList then some (.str s)
        else
          match float? s with
          | some n => some (ofFloat n)
          | none => some (.str s)

def taggedValue (tag s : String) : Option Json :=
  if isLocalTag tag then none
  else if tag = standardTag "bool" then (bool? s).map .bool
  else if tag = standardTag "int" then
    match wholeOf s.toList with
    | .fits n => some (.num (.int n))
    | _ => none
  else if tag = standardTag "float" then (float? s).map ofFloat
  else if tag = standardTag "null" then (if isNull s then some .null else none)
  else some (.str s)

def scalarValue (tag : Option String) (plain : Bool) (s : String) : Option Json :=
  match tag with
  | some tag => taggedValue tag s
  | none => if plain then plainValue s else some (.str s)

abbrev Copying := StateT Nat Option

def copyOf (d : Document) (place : Nat) : Copying Node := do
  match ← get with
  | 0 => failure
  | left + 1 =>
    set left
    match d.places.lookup place with
    | some node => return node
    | none => failure

/-- The node itself, or the one that it stands for. -/
def Document.target (d : Document) (node : Node) : Copying Node :=
  match node with
  | .alias place => copyOf d place
  | node => return node

def Document.keyText (d : Document) (node : Node) : Copying String := do
  match ← d.target node with
  | .scalar _ _ text => return text
  | _ => failure

mutual

/-- The value of a node; `depth` is how deep collections may still nest. -/
def valueOf (d : Document) (fuel depth : Nat) (node : Node) : Copying Json :=
  match fuel with
  | 0 => failure
  | fuel + 1 =>
    match node with
    | .scalar tag plain text => StateT.lift (scalarValue tag plain text)
    | .alias place => do valueOf d fuel depth (← copyOf d place)
    | .tagged tag content => if isLocalTag tag then failure else valueOf d fuel depth content
    | .sequence items =>
      match depth with
      | 0 => failure
      | depth + 1 => do return .arr (← valuesOf d fuel depth items)
    | .mapping entries =>
      match depth with
      | 0 => failure
      | depth + 1 => do return .obj (← fieldsOf d fuel depth [] entries)

def valuesOf (d : Document) (fuel depth : Nat) (nodes : List Node) : Copying (List Json) :=
  match fuel with
  | 0 => failure
  | fuel + 1 =>
    match nodes with
    | [] => return []
    | node :: nodes => do
      let value ← valueOf d fuel depth node
      return value :: (← valuesOf d fuel depth nodes)

def fieldsOf (d : Document) (fuel depth : Nat) (before : List (String × Json))
    (entries : List (Node × Node)) : Copying (List (String × Json)) :=
  match fuel with
  | 0 => failure
  | fuel + 1 =>
    match entries with
    | [] => return before
    | (key, value) :: entries => do
      let key ← d.keyText key
      let value ← valueOf d fuel depth value
      fieldsOf d fuel depth (Json.put key value before) entries

end

def Document.copies (d : Document) : Nat :=
  copiesPerPart * d.size

/-- Steps enough for every way through a document along which copies are left. -/
def Document.steps (d : Document) : Nat :=
  (maxDepth + 2) * (d.size + 4) + d.copies + 4

def Document.value? (d : Document) : Option Json :=
  match d.root with
  | none => some .null
  | some root => ((valueOf d d.steps maxDepth root).run d.copies).map (·.1)

def parse? (s : String) : Option Json := do
  (← Document.ofText? s).value?

end Signpost.Yaml
