import Signpost.Config.Decode

/-!
# What a configuration file says of the documents

The places of the documents stand in a table of a configuration file, or in an array in its place.
Its keys are known and its values are texts, or the file is refused as a whole. What is read is then
what stands under the keys.
-/

namespace Signpost

open Toml (Value)

namespace DocsOptions

/-- The keys, in the order in which an array gives their values. -/
def keys : List String := ["source_dir", "sidebars", "sidebar"]

/-- The text that stands last under a key. -/
def textUnder? (key : String) (entries : List (String × Value)) : Option String :=
  entries.reverse.findSome? fun entry => if entry.1 = key then entry.2.asText? else none

/-- The text that a table, or the array of its values, has for a key. -/
def textOf? (key : String) : Value → Option String
  | .table entries => textUnder? key entries
  | .array items => items[keys.idxOf key]?.bind Value.asText?
  | _ => none

variable {options record : DocsOptions} {key text : String} {value : Value}
  {entries : List (String × Value)}

/-- The options with a text under one of the keys. -/
def put (record : DocsOptions) (key text : String) : DocsOptions where
  sourceDir := if key = "source_dir" then some text else record.sourceDir
  sidebars := if key = "sidebars" then some text else record.sidebars
  sidebar := if key = "sidebar" then some text else record.sidebar

end DocsOptions

namespace ConfigText

end ConfigText

end Signpost
