import Signpost.Policy

/-!
# Site options

Options are given in layers. In a layer every option may be unset. Merging a layer onto another
takes every option from the upper layer if it is set there and from the lower one otherwise; what
comes out has its required options, and policies have a default.
-/

namespace Signpost

structure SiteOptions where
  title : Option String := none
  tagline : Option String := none
  url : Option String := none
  baseUrl : Option String := none
  organizationName : Option String := none
  projectName : Option String := none
  editUrl : Option String := none
  onBrokenLinks : Option Policy := none
  onBrokenMarkdownLinks : Option Policy := none
deriving DecidableEq, Repr, Inhabited

inductive RequiredOption where
  | title
  | url
  | baseUrl
deriving DecidableEq, Repr

def RequiredOption.name : RequiredOption → String
  | .title => "title"
  | .url => "url"
  | .baseUrl => "base_url"

structure EffectiveSite where
  title : String
  tagline : Option String
  url : String
  baseUrl : String
  organizationName : Option String
  projectName : Option String
  editUrl : Option String
  brokenLinkPolicy : Policy
  brokenMarkdownLinkPolicy : Policy
deriving DecidableEq, Repr

inductive SiteError where
  | missing (option : RequiredOption)
  | urlScheme
  | baseUrlSlashes (baseUrl : String)
deriving DecidableEq, Repr

def SiteError.message : SiteError → String
  | .missing option => "Missing required site option: " ++ option.name
  | .urlScheme => "Configuration error: site.url must start with http:// or https://"
  | .baseUrlSlashes baseUrl =>
    "Configuration error: site.base_url must start and end with '/', got '" ++ baseUrl ++ "'"

namespace SiteOptions

def require (option : RequiredOption) (upper lower : Option String) : Except SiteError String :=
  match upper.or lower with
  | some value => .ok value
  | none => .error (.missing option)

def merge (lower upper : SiteOptions) : Except SiteError EffectiveSite := do
  let title ← require .title upper.title lower.title
  let url ← require .url upper.url lower.url
  let baseUrl ← require .baseUrl upper.baseUrl lower.baseUrl
  return {
    title, url, baseUrl
    tagline := upper.tagline.or lower.tagline
    organizationName := upper.organizationName.or lower.organizationName
    projectName := upper.projectName.or lower.projectName
    editUrl := upper.editUrl.or lower.editUrl
    brokenLinkPolicy := (upper.onBrokenLinks.or lower.onBrokenLinks).getD Policy.default
    brokenMarkdownLinkPolicy :=
      (upper.onBrokenMarkdownLinks.or lower.onBrokenMarkdownLinks).getD Policy.default }

end SiteOptions

namespace EffectiveSite

def withBrokenLinkPolicy (site : EffectiveSite) (policy : Policy) : EffectiveSite :=
  { site with brokenLinkPolicy := policy }

def hasWebUrl (site : EffectiveSite) : Bool :=
  Text.beginsWith site.url "http://" || Text.beginsWith site.url "https://"

def hasSlashes (site : EffectiveSite) : Bool :=
  Text.beginsWith site.baseUrl "/" && Text.endsWith site.baseUrl "/"

/-- Checks the form of the address, then that of the path below it. -/
def validate (site : EffectiveSite) : Except SiteError Unit :=
  if !site.hasWebUrl then .error .urlScheme
  else if !site.hasSlashes then .error (.baseUrlSlashes site.baseUrl)
  else .ok ()

end EffectiveSite

end Signpost
