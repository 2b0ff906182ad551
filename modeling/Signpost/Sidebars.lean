import Signpost.Spec
import Signpost.Navigation

/-!
# Sidebars

A document with sidebars maps names to navigation specs. A document that is a spec itself is one
sidebar with a default name. Every sidebar is read on its own, and its name stands at the beginning
of every place and trail that is reported for it.
-/

namespace Signpost

inductive NavError where
  | spec (cause : SpecError)
  | fatal (cause : Fatal)
  | unknownSidebar (name : String) (available : List String)
  | unreadable (path : Path) (cause : String)
  | unparsable (path : Path)
deriving DecidableEq, Repr

namespace NavError

def message : NavError → String
  | .spec cause => cause.message
  | .fatal cause => cause.message
  | .unknownSidebar name available =>
    "Unknown sidebar '" ++ name ++ "' (available: " ++ Text.nameList available ++ ")"
  | .unreadable path cause => "Failed to read sidebars file " ++ path.text ++ ": " ++ cause
  | .unparsable path => "Failed to parse sidebars file " ++ path.text ++ ":"

end NavError

namespace Navigation

def ofParsed (parsed : ParsedSpec) (policy : Policy) (reports : List Unresolved) :
    Reported NavError Navigation :=
  match policy.judge parsed.unresolved reports with
  | ⟨.ok _, reports⟩ => ⟨.ok (ofItems parsed.items), reports⟩
  | ⟨.error cause, reports⟩ => ⟨.error (.fatal cause), reports⟩

/-- The navigation of a bare spec; `reports` is what has been reported before. -/
def build (spec : Json) (registry : Registry) (policy : Policy) (reports : List Unresolved) :
    Reported NavError Navigation :=
  match Spec.parse spec registry with
  | .ok parsed => ofParsed parsed policy reports
  | .error cause => ⟨.error (.spec cause), reports⟩

end Navigation

structure Sidebars where
  specs : Index Json := Index.empty

namespace Sidebars

def defaultName : String := "default"

/-- Whether an object is one navigation item: its type or its label is a text. -/
def isItem (fields : List (String × Json)) : Bool :=
  ["type", "label"].any fun key => ((fields.lookup key).bind Json.asString?).isSome

/-- The sidebars of a document; an empty document has none. -/
def ofJson : Json → Sidebars
  | .null => ⟨Index.empty⟩
  | .obj fields =>
    if isItem fields then ⟨Index.empty.insert defaultName (.obj fields)⟩
    else ⟨Index.ofList fields⟩
  | spec => ⟨Index.empty.insert defaultName spec⟩

def names (s : Sidebars) : List String :=
  s.specs.keys

def get? (s : Sidebars) (name : String) : Option Json :=
  s.specs.get? name

def size (s : Sidebars) : Nat :=
  s.specs.size

def sole? (s : Sidebars) : Option String :=
  match s.names with
  | [name] => some name
  | _ => none

def parse (s : Sidebars) (name : String) (registry : Registry) : Except NavError ParsedSpec :=
  match s.get? name with
  | none => .error (.unknownSidebar name s.names)
  | some spec => (Spec.parseNamed name spec registry).mapError .spec

def resolve (s : Sidebars) (name : String) (registry : Registry) (policy : Policy)
    (reports : List Unresolved) : Reported NavError Navigation :=
  match s.parse name registry with
  | .ok parsed => Navigation.ofParsed parsed policy reports
  | .error cause => ⟨.error cause, reports⟩

end Sidebars

end Signpost
