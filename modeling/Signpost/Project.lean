import Signpost.CommandLine
import Signpost.Config.Load
import Signpost.Discovery
import Signpost.Sidebars.File

/-!
# Projects

A project is a configuration with the site that it makes under a profile. Documents and sidebars are
read from the places that the configuration names.
-/

namespace Signpost

inductive CommandError where
  | config (cause : ConfigError)
  | registry (cause : RegistryError)
  | nav (cause : NavError)
  | io (cause : String)
  | json (cause : String)
  | unresolved (count : Nat)
  | noSidebars
  | severalSidebars (names : List String)
deriving DecidableEq, Repr

def CommandError.message : CommandError → String
  | .config cause => cause.message
  | .registry cause => cause.message
  | .nav cause => cause.message
  | .io cause => cause
  | .json cause => cause
  | .unresolved count => toString count ++ " unresolved document reference(s)"
  | .noSidebars => "No sidebars defined"
  | .severalSidebars names =>
    "Multiple sidebars defined (" ++ Text.join ", " names ++ "); choose one with --sidebar"

structure Project where
  config : Config
  profile : Option String
  site : EffectiveSite

namespace Project

def profileVariable : String := "DOCNAV_PROFILE"

def overridesOf (o : Options) : Overrides where
  sourceDir := o.sourceDir
  sidebars := o.sidebars
  sidebar := o.sidebar
  onBrokenLinks := o.onBrokenLinks

def load (w : Workspace) (o : Options) : Except CommandError Project := do
  let config ← (Config.load w o.config (overridesOf o)).mapError .config
  let profile := o.profile.or (w.environment? profileVariable)
  return { config, profile, site := ← (config.effective profile).mapError .config }

def registry (p : Project) (w : Workspace) : Except CommandError Registry :=
  (Registry.ofSource (Discovery.documents w p.config.docs.sourceDir)).mapError .registry

def sidebars (p : Project) (w : Workspace) : Except CommandError Sidebars :=
  (Sidebars.load w p.config.docs.sidebars).mapError .nav

/-- The name of the sidebar to use: the one asked for, or the only one. -/
def chooseSidebar (p : Project) (sidebars : Sidebars) : Except CommandError String :=
  match p.config.docs.sidebar, sidebars.sole? with
  | some name, _ => .ok name
  | none, some name => .ok name
  | none, none =>
    if sidebars.names.isEmpty then .error .noSidebars
    else .error (.severalSidebars sidebars.names)

end Project

end Signpost
