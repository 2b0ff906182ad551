import Signpost.Text.Blank
import Signpost.Text.Cut
import Signpost.Yaml.Value

/-!
# Front matter

A file may begin with a YAML mapping between two lines of three hyphens. It can give the document an
id and a title; other entries are of no concern here.
-/

namespace Signpost

structure FrontMatter where
  id : Option String := none
  title : Option String := none
deriving DecidableEq, Repr

namespace FrontMatter

def fence : String := "---"

def cutAtFence : List String → Option (List String × List String)
  | [] => none
  | line :: lines =>
    if Text.trimEndChars line.toList = fence.toList then some ([], lines)
    else (cutAtFence lines).map fun (before, after) => (line :: before, after)

def ended : List String → String
  | [] => ""
  | line :: lines => line ++ "\n" ++ ended lines

/-- The front matter of a file, if it has any, and the body. A fence that is never closed belongs to
the body. -/
def split (text : String) : Option String × String :=
  match Text.cut '\n' text with
  | first :: lines =>
    let inside := if first = fence || first = fence ++ "\r" then cutAtFence lines else none
    match inside with
    | some (before, after) => (some (ended before), Text.join "\n" after)
    | none => (none, text)
  | [] => (none, text)

open Yaml

/-- The text of the value of an entry; a null that is not quoted is no text. -/
def textOf? (d : Yaml.Document) (value : Node) : Copying (Option String) := do
  match ← d.target value with
  | .scalar none true text => return if text = "" || isNull text then none else some text
  | .scalar (some tag) true text =>
    if tag = standardTag "null" then
      if isNull text then return none else failure
    else return some text
  | .scalar _ false text => return some text
  | _ => failure

def entryText? (d : Yaml.Document) (entries : List (String × Node)) (key : String) :
    Copying (Option String) := do
  match entries.filter fun entry => entry.1 = key with
  | [] => return none
  | [(_, value)] => textOf? d value
  | _ => failure

def ofEntries (d : Yaml.Document) (entries : List (Node × Node)) : Copying FrontMatter := do
  let entries ← entries.mapM fun (key, value) => return (← d.keyText key, value)
  return ⟨← entryText? d entries "id", ← entryText? d entries "title"⟩

def ofDocument? (d : Yaml.Document) : Option FrontMatter :=
  let entries? :=
    match d.root with
    | none => some []
    | some (.scalar _ plain text) => if plain && text = "" then some [] else none
    | some (.mapping entries) => some entries
    | some (.tagged _ (.mapping entries)) => some entries
    | some _ => none
  entries?.bind fun entries => ((ofEntries d entries).run d.copies).map (·.1)

def ofText? (text : String) : Option FrontMatter :=
  if Text.isBlank text then some {}
  else (Yaml.Document.ofText? (Text.trim text)).bind ofDocument?

end FrontMatter

end Signpost
