import Signpost.Json.Parser
import Signpost.Sidebars
import Signpost.Text.Blank
import Signpost.Workspace
import Signpost.Yaml.Value

/-!
# Sidebars files

A sidebars file is YAML if its name says so, and JSON otherwise.
-/

namespace Signpost.Sidebars

def isYaml (path : Path) : Bool :=
  path.extension? = some "yaml" || path.extension? = some "yml"

def valueOfText? (path : Path) (text : String) : Option Json :=
  if isYaml path then (if Text.isBlank text then some .null else Yaml.parse? text)
  else Json.parse? text

def load (workspace : Workspace) (path : Path) : Except NavError Sidebars :=
  match workspace.readText path with
  | .error e => .error (.unreadable path e.message)
  | .ok text =>
    match valueOfText? path text with
    | some value => .ok (ofJson value)
    | none => .error (.unparsable path)

end Signpost.Sidebars
