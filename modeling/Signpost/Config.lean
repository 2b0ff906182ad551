import Signpost.Expansion
import Signpost.Index
import Signpost.Site
import Signpost.Workspace

/-!
# Configurations

A configuration holds options of the site, further options under the names of profiles that are laid
over them one at a time, and the places of the documents and of the sidebars file. Texts in it may
refer to the environment.
-/

namespace Signpost

inductive ConfigError where
  | notFound (path : Path)
  | unreadable (cause : ReadError)
  | unparsable
  | unknownPolicy (name : String)
  | site (cause : SiteError)
  | unknownProfile (name : String) (available : List String)
  | environment (option : String) (fault : ExpansionFault)
deriving DecidableEq, Repr

namespace ConfigError

/-- The text shown for the error. What a parser would say of a file is left open. -/
def message : ConfigError → String
  | .notFound path => "Configuration file not found: " ++ path.text
  | .unreadable cause => "I/O error: " ++ cause.message
  | .unparsable => "TOML parse error:"
  | .unknownPolicy name =>
    "Configuration error: unknown broken link policy '" ++ name ++
      "' (expected ignore, warn or throw)"
  | .site cause => cause.message
  | .unknownProfile name available =>
    "Unknown profile '" ++ name ++ "' (available: " ++ Text.nameList available ++ ")"
  | .environment option fault =>
    "Environment variable error in " ++ option ++ ": " ++ fault.message

end ConfigError

def Policy.ofName (name : String) : Except ConfigError Policy :=
  match Policy.ofName? name with
  | some policy => .ok policy
  | none => .error (.unknownPolicy name)

structure DocsOptions where
  sourceDir : Option String := none
  sidebars : Option String := none
  sidebar : Option String := none
deriving DecidableEq, Repr

structure DocsPlaces where
  sourceDir : Path
  sidebars : Path
  sidebar : Option String := none
deriving DecidableEq, Repr

def DocsOptions.resolve (options : DocsOptions) (base : Path) : DocsPlaces where
  sourceDir := base.join ⟨options.sourceDir.getD "docs"⟩
  sidebars := base.join ⟨options.sidebars.getD "sidebars.yaml"⟩
  sidebar := options.sidebar

namespace SiteOptions

def expandOption (lookup : String → Option String) (name : String) :
    Option String → Except ConfigError (Option String)
  | none => .ok none
  | some value =>
    match expand lookup value with
    | .ok value => .ok (some value)
    | .error fault => .error (.environment name fault)

/-- Options with references to the environment replaced in the title, the address, the path below
it and the address for editing. `table` is what the options are called. -/
def expandAll (lookup : String → Option String) (table : String) (options : SiteOptions) :
    Except ConfigError SiteOptions := do
  let title ← expandOption lookup (table ++ ".title") options.title
  let url ← expandOption lookup (table ++ ".url") options.url
  let baseUrl ← expandOption lookup (table ++ ".base_url") options.baseUrl
  let editUrl ← expandOption lookup (table ++ ".edit_url") options.editUrl
  return { options with title, url, baseUrl, editUrl }

end SiteOptions

/-- A configuration as it is written in a file. -/
structure ConfigText where
  site : SiteOptions := {}
  docs : DocsOptions := {}
  profiles : Index SiteOptions := Index.empty

structure Config where
  site : SiteOptions := {}
  profiles : Index SiteOptions := Index.empty
  docs : DocsPlaces
  path : Option Path := none
  /-- The policy for sidebar entries that counts whatever the options say. -/
  forcedPolicy : Option Policy := none

namespace Config

def defaultIn (base : Path) : Config where
  docs := DocsOptions.resolve {} base

def default : Config :=
  defaultIn ⟨"."⟩

def ofText (text : ConfigText) (lookup : String → Option String) (base : Path) :
    Except ConfigError Config := do
  let site ← text.site.expandAll lookup "site"
  let profiles ← text.profiles.tryMap fun name options =>
    options.expandAll lookup ("profiles." ++ name)
  return { site, profiles, docs := text.docs.resolve base }

def profileOptions (config : Config) : Option String → Except ConfigError SiteOptions
  | none => .ok {}
  | some name =>
    match config.profiles.get? name with
    | some options => .ok options
    | none => .error (.unknownProfile name config.profiles.keys)

/-- The site with a profile laid over the options, and the forced policy over both. -/
def effective (config : Config) (profile : Option String) : Except ConfigError EffectiveSite := do
  let upper ← config.profileOptions profile
  let merged ← (config.site.merge upper).mapError .site
  let site :=
    match config.forcedPolicy with
    | some policy => merged.withBrokenLinkPolicy policy
    | none => merged
  site.validate.mapError .site
  return site

end Config

structure Overrides where
  sourceDir : Option Path := none
  sidebars : Option Path := none
  sidebar : Option String := none
  onBrokenLinks : Option Policy := none

/-- A configuration with what the command line says in the place of what it said. -/
def Config.override (config : Config) (o : Overrides) : Config :=
  { config with
    docs := {
      sourceDir := o.sourceDir.getD config.docs.sourceDir
      sidebars := o.sidebars.getD config.docs.sidebars
      sidebar := o.sidebar.or config.docs.sidebar }
    forcedPolicy := o.onBrokenLinks.or config.forcedPolicy }

end Signpost
