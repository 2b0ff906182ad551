import Signpost.Json
import Signpost.Document
import Signpost.Text.Blank

/-!
# Outlines

The shape of a navigation spec, before any document is looked up. A node is a reference to a
document, a group of nodes with a label, or malformed, and a malformed node says why. A node is
examined for its own fields before the nodes below it.
-/

namespace Signpost

inductive SpecFault where
  | notASpec (kind : String)
  | notANode (kind : String)
  | blankId
  | missingId
  | idNotString
  | notString (key : String)
  | unknownType (name : String)
  | shapeless
  | blankLabel
  | missingLabel
  | collapsedNotBool
  | itemsNotSequence
  | missingItems (label : String)
deriving DecidableEq, Repr

def SpecFault.message : SpecFault → String
  | .notASpec kind => "expected a sequence of items, found " ++ kind
  | .notANode kind => "expected a document id or category object, found " ++ kind
  | .blankId => "document id cannot be empty"
  | .missingId => "doc item requires an `id`"
  | .idNotString => "`id` must be a string"
  | .notString key => "`" ++ key ++ "` must be a string"
  | .unknownType name => "unsupported item type '" ++ name ++ "' (expected doc or category)"
  | .shapeless => "object is neither a category (label, items) nor a typed item"
  | .blankLabel => "category label cannot be empty"
  | .missingLabel => "category requires a `label`"
  | .collapsedNotBool => "`collapsed` must be a boolean"
  | .itemsNotSequence => "`items` must be a sequence"
  | .missingItems label => "category '" ++ label ++ "' requires `items`"

/-- A node of a navigation spec. -/
inductive Outline where
  | reference (id : DocumentId) (label : Option String)
  | group (label : String) (collapsed : Bool) (entries : List Outline)
  | malformed (fault : SpecFault)
deriving Repr

namespace Outline

inductive Children where
  | absent
  | notSequence
  | entries (nodes : List Outline)

def optionalString (fields : List (String × Json)) (key : String) :
    Except SpecFault (Option String) :=
  match fields.lookup key with
  | none => .ok none
  | some (.str s) => .ok (some s)
  | some _ => .error (.notString key)

def ofReference (id : DocumentId) (label : Option String) : Outline :=
  if Text.isBlank id then .malformed .blankId else .reference id label

def ofDocEntry (fields : List (String × Json)) : Outline :=
  match fields.lookup "id" with
  | some (.str id) =>
    match optionalString fields "label" with
    | .ok label => ofReference id label
    | .error fault => .malformed fault
  | some _ => .malformed .idNotString
  | none => .malformed .missingId

/-- The mark for collapsed categories; a category is collapsed unless it says otherwise. -/
def collapsedMark (fields : List (String × Json)) : Option Bool :=
  match fields.lookup "collapsed" with
  | none => some true
  | some (.bool b) => some b
  | some _ => none

/-- The node of an object that is a category; its label is examined first, then the mark for
collapsed categories, then the items. -/
def ofCategory (fields : List (String × Json)) (children : Children) : Outline :=
  match optionalString fields "label" with
  | .error fault => .malformed fault
  | .ok none => .malformed .missingLabel
  | .ok (some label) =>
    if Text.isBlank label then .malformed .blankLabel
    else
      match collapsedMark fields with
      | none => .malformed .collapsedNotBool
      | some collapsed =>
        match children with
        | .entries nodes => .group label collapsed nodes
        | .notSequence => .malformed .itemsNotSequence
        | .absent => .malformed (.missingItems label)

/-- The node of an object. An object without a type is a category if it has a label or items. -/
def ofObject (fields : List (String × Json)) (children : Children) : Outline :=
  match fields.lookup "type" with
  | some (.str "doc") => ofDocEntry fields
  | some (.str "category") => ofCategory fields children
  | some (.str name) => .malformed (.unknownType name)
  | some _ => .malformed (.notString "type")
  | none =>
    if (fields.lookup "items").isSome || (fields.lookup "label").isSome then
      ofCategory fields children
    else .malformed .shapeless

mutual

def ofJson : Json → Outline
  | .str id => ofReference id none
  | .obj fields => ofObject fields (childrenOf fields)
  | .null => .malformed (.notANode "null")
  | .bool _ => .malformed (.notANode "a boolean")
  | .num _ => .malformed (.notANode "a number")
  | .arr _ => .malformed (.notANode "a sequence")

def ofJsonList : List Json → List Outline
  | [] => []
  | value :: values => ofJson value :: ofJsonList values

/-- What the first entry for the items of a category holds. -/
def childrenOf : List (String × Json) → Children
  | [] => .absent
  | (key, value) :: fields =>
    if key = "items" then childrenOfValue value else childrenOf fields

def childrenOfValue : Json → Children
  | .arr values => .entries (ofJsonList values)
  | _ => .notSequence

end

end Outline

end Signpost
