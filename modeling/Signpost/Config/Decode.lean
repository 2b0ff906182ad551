import Signpost.Config
import Signpost.Toml.Parser

/-!
# Configuration files

A configuration file is TOML. Its tables have to hold the right kinds of values and no further keys,
but further tables may stand beside them. In the place of a table with fixed keys there may be an
array of their values in order.
-/

namespace Signpost

open Toml (Value)

/-- The policy that a value names; the name may also be the only key of a table, over nothing. -/
def Policy.ofValue? : Value → Option Policy
  | .text name => Policy.ofName? name
  | .table [(name, .table [])] => Policy.ofName? name
  | .table [(name, .array [])] => Policy.ofName? name
  | _ => none

structure Field (α : Type) where
  key : String
  set : Value → α → Option α

namespace Field

def ofText {α : Type} (key : String) (set : String → α → α) : Field α :=
  ⟨key, fun value record => value.asText?.map fun text => set text record⟩

def ofPolicy {α : Type} (key : String) (set : Policy → α → α) : Field α :=
  ⟨key, fun value record => (Policy.ofValue? value).map fun policy => set policy record⟩

def setEntries {α : Type} (fields : List (Field α)) (record : α) :
    List (String × Value) → Option α
  | [] => some record
  | (key, value) :: rest => do
    let field ← fields.find? (·.key = key)
    setEntries fields (← field.set value record) rest

/-- Sets keys to the members of an array, in order; further members do not count. -/
def setItems {α : Type} (record : α) : List (Field α) → List Value → Option α
  | field :: fields, item :: items => do setItems (← field.set item record) fields items
  | _, _ => some record

def setAll {α : Type} (fields : List (Field α)) (record : α) : Value → Option α
  | .table entries => setEntries fields record entries
  | .array items => setItems record fields items
  | _ => none

end Field

def SiteOptions.fields : List (Field SiteOptions) := [
  .ofText "title" fun s o => { o with title := some s },
  .ofText "tagline" fun s o => { o with tagline := some s },
  .ofText "url" fun s o => { o with url := some s },
  .ofText "base_url" fun s o => { o with baseUrl := some s },
  .ofText "organization_name" fun s o => { o with organizationName := some s },
  .ofText "project_name" fun s o => { o with projectName := some s },
  .ofText "edit_url" fun s o => { o with editUrl := some s },
  .ofPolicy "on_broken_links" fun p o => { o with onBrokenLinks := some p },
  .ofPolicy "on_broken_markdown_links" fun p o => { o with onBrokenMarkdownLinks := some p }]

def DocsOptions.fields : List (Field DocsOptions) := [
  .ofText "source_dir" fun s o => { o with sourceDir := some s },
  .ofText "sidebars" fun s o => { o with sidebars := some s },
  .ofText "sidebar" fun s o => { o with sidebar := some s }]

def SiteOptions.ofValue? : Value → Option SiteOptions :=
  Field.setAll SiteOptions.fields {}

def profilesOfEntries? : List (String × Value) → Option (List (String × SiteOptions))
  | [] => some []
  | (name, value) :: rest => do
    let options ← SiteOptions.ofValue? value
    return (name, options) :: (← profilesOfEntries? rest)

def profilesOfValue? : Value → Option (Index SiteOptions)
  | .table entries => (profilesOfEntries? entries).map Index.ofList
  | _ => none

def ConfigText.ofString? (s : String) : Option ConfigText := do
  let entries ← Toml.parse? s
  let site ← (entries.lookup "site").elim (some {}) SiteOptions.ofValue?
  let docs ← (entries.lookup "docs").elim (some {}) (Field.setAll DocsOptions.fields {})
  let profiles ← (entries.lookup "profiles").elim (some Index.empty) profilesOfValue?
  return { site, docs, profiles }

def Config.ofString (s : String) (lookup : String → Option String) (base : Path) :
    Except ConfigError Config :=
  match ConfigText.ofString? s with
  | some text => Config.ofText text lookup base
  | none => .error .unparsable

end Signpost
