import Signpost.Config.Decode

/-!
# Finding the configuration

Without a given file, the configuration is the one in the nearest directory from the current one
upwards that has a file of the fixed name. Places in it are seen from its own directory.
-/

namespace Signpost.Config

def fileName : String := "docnav.toml"

/-- The names on the way to a directory, and those on the ways to the directories above it, nearest
first. -/
def waysUp : List String → List (List String)
  | [] => [[]]
  | name :: names => (waysUp names).map (name :: ·) ++ [[]]

def discover? (w : Workspace) : Option Path :=
  ((waysUp w.cwd).map fun names => (Workspace.pathOf names).join ⟨fileName⟩).find? w.pathExists

def ofFile (w : Workspace) (path : Path) : Except ConfigError Config :=
  match w.readText path with
  | .error e => .error (.unreadable e)
  | .ok text => do
    let config ← Config.ofString text w.environment? (path.parent?.getD ⟨"."⟩)
    return { config with path := some path }

/-- The configuration in a given file, in a file that is found, or by default, before the command
line is taken into account. -/
def loadFile (w : Workspace) (path : Option Path) : Except ConfigError Config :=
  match path with
  | some path => if w.pathExists path then ofFile w path else .error (.notFound path)
  | none =>
    match discover? w with
    | some path => ofFile w path
    | none => .ok (defaultIn w.currentDir)

def load (w : Workspace) (path : Option Path) (overrides : Overrides) :
    Except ConfigError Config := do
  return (← loadFile w path).override overrides

end Signpost.Config
