import Signpost.Proofs.CutAndJoin
import Signpost.Config
import Signpost.Proofs.IndexLookup

/-!
# Options in layers

A layer gives values to some of the options, and an effective site gives a value to every option
that has one. The site that a profile makes is described option by option: the value is that of the
profile, or else that of the base, or else the default, and only the policy for sidebars may be
forced. What can go wrong is tested in a fixed order, and on the values that come out, not on the
layers. So nothing depends on a value that is laid over, or on a profile that was not asked for.
-/

namespace Signpost

inductive SiteField where
  | title
  | tagline
  | url
  | baseUrl
  | organizationName
  | projectName
  | editUrl
  | brokenLinks
  | brokenMarkdownLinks
deriving DecidableEq, Repr

/-- What an option can be set to. -/
inductive SiteValue where
  | text (text : String)
  | policy (policy : Policy)
deriving DecidableEq, Repr

namespace SiteField

def default? : SiteField → Option SiteValue
  | .brokenLinks | .brokenMarkdownLinks => some (.policy .warn)
  | _ => none

end SiteField

def RequiredOption.field : RequiredOption → SiteField
  | .title => .title
  | .url => .url
  | .baseUrl => .baseUrl

def SiteOptions.value? (options : SiteOptions) : SiteField → Option SiteValue
  | .title => options.title.map .text
  | .tagline => options.tagline.map .text
  | .url => options.url.map .text
  | .baseUrl => options.baseUrl.map .text
  | .organizationName => options.organizationName.map .text
  | .projectName => options.projectName.map .text
  | .editUrl => options.editUrl.map .text
  | .brokenLinks => options.onBrokenLinks.map .policy
  | .brokenMarkdownLinks => options.onBrokenMarkdownLinks.map .policy

def EffectiveSite.value? (site : EffectiveSite) : SiteField → Option SiteValue
  | .title => some (.text site.title)
  | .tagline => site.tagline.map .text
  | .url => some (.text site.url)
  | .baseUrl => some (.text site.baseUrl)
  | .organizationName => site.organizationName.map .text
  | .projectName => site.projectName.map .text
  | .editUrl => site.editUrl.map .text
  | .brokenLinks => some (.policy site.brokenLinkPolicy)
  | .brokenMarkdownLinks => some (.policy site.brokenMarkdownLinkPolicy)

/-- The values of two layers, the upper one first. -/
def layered (lower upper : SiteOptions) (field : SiteField) : Option SiteValue :=
  (upper.value? field).or (lower.value? field)

/-- The values that come out of layered ones: those that are not set have their default, and the
policy for sidebars may be forced. -/
def settled (forced : Option Policy) (set : SiteField → Option SiteValue) (field : SiteField) :
    Option SiteValue :=
  (if field = .brokenLinks then forced.map .policy else none).or ((set field).or field.default?)

/-- The required options that are asked for before this one. -/
def RequiredOption.earlier : RequiredOption → List RequiredOption
  | .title => []
  | .url => [.title]
  | .baseUrl => [.title, .url]

/-- The first required option that is not set. -/
structure FirstMissing (set : SiteField → Option SiteValue) (option : RequiredOption) : Prop where
  eq_none : set option.field = none
  earlier : ∀ other ∈ option.earlier, set other.field ≠ none

def IsWebUrl (url : String) : Prop :=
  "http://".toList <+: url.toList ∨ "https://".toList <+: url.toList

/-- The text begins and ends with a slash. -/
def IsSlashed (path : String) : Prop :=
  "/".toList <+: path.toList ∧ "/".toList <:+ path.toList

instance : DecidablePred IsWebUrl := fun url =>
  inferInstanceAs (Decidable ("http://".toList <+: url.toList ∨ "https://".toList <+: url.toList))

instance : DecidablePred IsSlashed := fun path =>
  inferInstanceAs (Decidable ("/".toList <+: path.toList ∧ "/".toList <:+ path.toList))

/-- The layer that is laid over the base: that of the profile, or an empty one if none is asked
for. -/
inductive Requests (profiles : Index SiteOptions) : Option String → SiteOptions → Prop where
  | base : Requests profiles none {}
  | profile {name : String} {upper : SiteOptions} :
      profiles.get? name = some upper → Requests profiles (some name) upper

/-- All required options are set, and the address and the path below it are well formed. -/
structure IsComplete (set : SiteField → Option SiteValue) : Prop where
  not_missing : ∀ option, ¬FirstMissing set option
  isWebUrl : ∃ url, set .url = some (.text url) ∧ IsWebUrl url
  isSlashed : ∃ baseUrl, set .baseUrl = some (.text baseUrl) ∧ IsSlashed baseUrl

/-- What the base comes to under a profile: the site, or the first thing that is wrong. -/
inductive Outcome (lower : SiteOptions) (profiles : Index SiteOptions) (forced : Option Policy)
    (profile : Option String) : Except ConfigError EffectiveSite → Prop where
  | unknown {name : String} : profile = some name → profiles.get? name = none →
      Outcome lower profiles forced profile (.error (.unknownProfile name profiles.keys))
  | missing {upper : SiteOptions} {option : RequiredOption} : Requests profiles profile upper →
      FirstMissing (layered lower upper) option →
      Outcome lower profiles forced profile (.error (.site (.missing option)))
  | urlScheme {upper : SiteOptions} {url : String} : Requests profiles profile upper →
      (∀ option, ¬FirstMissing (layered lower upper) option) →
      layered lower upper .url = some (.text url) → ¬IsWebUrl url →
      Outcome lower profiles forced profile (.error (.site .urlScheme))
  | slashes {upper : SiteOptions} {url baseUrl : String} : Requests profiles profile upper →
      (∀ option, ¬FirstMissing (layered lower upper) option) →
      layered lower upper .url = some (.text url) → IsWebUrl url →
      layered lower upper .baseUrl = some (.text baseUrl) → ¬IsSlashed baseUrl →
      Outcome lower profiles forced profile (.error (.site (.baseUrlSlashes baseUrl)))
  | site {upper : SiteOptions} {site : EffectiveSite} : Requests profiles profile upper →
      IsComplete (layered lower upper) →
      (∀ field, site.value? field = settled forced (layered lower upper) field) →
      Outcome lower profiles forced profile (.ok site)

/-! ### Merging two layers -/

theorem EffectiveSite.eq_of_value? {site other : EffectiveSite}
    (hvalue : ∀ field, site.value? field = other.value? field) : site = other := by
  have hmap {α : Type} {f : α → SiteValue} (hf : Function.Injective f) {a b : Option α}
      (heq : a.map f = b.map f) : a = b := Option.map_injective hf heq
  have htext : Function.Injective SiteValue.text := fun _ _ => SiteValue.text.inj
  have htitle := hvalue .title
  have htagline := hmap htext (hvalue .tagline)
  have hurl := hvalue .url
  have hbaseUrl := hvalue .baseUrl
  have horganization := hmap htext (hvalue .organizationName)
  have hproject := hmap htext (hvalue .projectName)
  have hedit := hmap htext (hvalue .editUrl)
  have hlinks := hvalue .brokenLinks
  have hmarkdown := hvalue .brokenMarkdownLinks
  cases site
  cases other
  simp_all [value?]

/-- A required option has no default, and no policy is forced on it. -/
theorem settled_required (forced : Option Policy) (set : SiteField → Option SiteValue)
    (option : RequiredOption) : settled forced set option.field = set option.field := by
  cases option <;> simp [settled, RequiredOption.field, SiteField.default?]

section FirstMissing

variable {set : SiteField → Option SiteValue} {option other : RequiredOption}

/-- Of two required options one is asked for first. -/
theorem FirstMissing.unique (hfirst : FirstMissing set option) (hother : FirstMissing set other) :
    option = other := by
  by_contra hne
  have hearlier : option ∈ other.earlier ∨ other ∈ option.earlier := by
    revert hne
    cases option <;> cases other <;> decide
  rcases hearlier with hmem | hmem
  · exact hother.earlier option hmem hfirst.eq_none
  · exact hfirst.earlier other hmem hother.eq_none

end FirstMissing

namespace SiteOptions

variable {lower upper : SiteOptions} {option : RequiredOption} {site : EffectiveSite}

/-- What a layer says of a required option. -/
def required (options : SiteOptions) : RequiredOption → Option String
  | .title => options.title
  | .url => options.url
  | .baseUrl => options.baseUrl

/-- A required option is missing from both layers, or it is read from one of them. -/
theorem require_cases (lower upper : SiteOptions) (option : RequiredOption) :
    (layered lower upper option.field = none ∧
      require option (upper.required option) (lower.required option) = .error (.missing option)) ∨
    ∃ value, layered lower upper option.field = some (.text value) ∧
      require option (upper.required option) (lower.required option) = .ok value := by
  have hlayered : layered lower upper option.field =
      ((upper.required option).or (lower.required option)).map .text := by
    cases option <;> exact Option.map_or.symm
  rw [hlayered, require]
  cases hvalue : (upper.required option).or (lower.required option) with
  | none => exact .inl ⟨rfl, rfl⟩
  | some value => exact .inr ⟨value, rfl, rfl⟩

/-- Merging fails with the first option that is missing, or it gives every option its value. -/
theorem merge_cases (lower upper : SiteOptions) :
    (∃ option, FirstMissing (layered lower upper) option ∧
      lower.merge upper = .error (.missing option)) ∨
    ∃ site : EffectiveSite,
      (∀ field, site.value? field = settled none (layered lower upper) field) ∧
      lower.merge upper = .ok site := by
  have htitles := require_cases lower upper .title
  have hurls := require_cases lower upper .url
  have hbaseUrls := require_cases lower upper .baseUrl
  dsimp only [required] at htitles hurls hbaseUrls
  rcases htitles with ⟨hmissing, hfails⟩ | ⟨title, htitle, hreadTitle⟩
  · refine .inl ⟨.title, ⟨hmissing, by simp [RequiredOption.earlier]⟩, ?_⟩
    rw [merge, hfails]
    rfl
  rcases hurls with ⟨hmissing, hfails⟩ | ⟨url, hurl, hreadUrl⟩
  · refine .inl ⟨.url, ⟨hmissing, by simp [RequiredOption.earlier, htitle]⟩, ?_⟩
    rw [merge, hreadTitle, hfails]
    rfl
  rcases hbaseUrls with ⟨hmissing, hfails⟩ | ⟨baseUrl, hbaseUrl, hreadBase⟩
  · refine .inl ⟨.baseUrl, ⟨hmissing, by simp [RequiredOption.earlier, htitle, hurl]⟩, ?_⟩
    rw [merge, hreadTitle, hreadUrl, hfails]
    rfl
  obtain ⟨site, hmerge⟩ : ∃ site, lower.merge upper = .ok site := by
    rw [merge, hreadTitle, hreadUrl, hreadBase]
    exact ⟨_, rfl⟩
  refine .inr ⟨site, fun field => ?_, hmerge⟩
  rw [merge, hreadTitle, hreadUrl, hreadBase] at hmerge
  obtain rfl := Except.ok.inj hmerge
  cases field with
  | title => exact htitle.symm.trans (settled_required none _ .title).symm
  | url => exact hurl.symm.trans (settled_required none _ .url).symm
  | baseUrl => exact hbaseUrl.symm.trans (settled_required none _ .baseUrl).symm
  | tagline | organizationName | projectName | editUrl | brokenLinks | brokenMarkdownLinks =>
      simp [EffectiveSite.value?, settled, layered, value?, SiteField.default?, Policy.default,
        Option.map_or]

end SiteOptions

namespace EffectiveSite

variable {site : EffectiveSite} {forced : Option Policy} {set : SiteField → Option SiteValue}

/-- The site with the policy for sidebars that is forced on it. -/
def force (site : EffectiveSite) : Option Policy → EffectiveSite
  | some policy => site.withBrokenLinkPolicy policy
  | none => site

theorem value?_force (hvalues : ∀ field, site.value? field = settled none set field)
    (forced : Option Policy) (field : SiteField) :
    (site.force forced).value? field = settled forced set field := by
  cases forced with
  | none => exact hvalues field
  | some policy =>
      by_cases hfield : field = .brokenLinks
      · subst hfield
        simp [force, value?, withBrokenLinkPolicy, settled]
      · have hsame : (site.force (some policy)).value? field = site.value? field := by
          cases field <;> first | rfl | exact absurd rfl hfield
        rw [hsame, hvalues field]
        simp [settled, hfield]

section Values

variable (hvalues : ∀ field, site.value? field = settled forced set field)

include hvalues

theorem set_url : set .url = some (.text site.url) :=
  (settled_required forced set .url).symm.trans (hvalues .url).symm

theorem set_baseUrl : set .baseUrl = some (.text site.baseUrl) :=
  (settled_required forced set .baseUrl).symm.trans (hvalues .baseUrl).symm

/-- A site has its required options, so none was missing. -/
theorem not_firstMissing (option : RequiredOption) : ¬FirstMissing set option := by
  intro hfirst
  have hnone : site.value? option.field = none := by
    rw [hvalues, settled_required, hfirst.eq_none]
  cases option <;> cases hnone

theorem isComplete_iff : IsComplete set ↔ IsWebUrl site.url ∧ IsSlashed site.baseUrl := by
  constructor
  · rintro ⟨-, ⟨url, hurl, hweb⟩, baseUrl, hbaseUrl, hslashed⟩
    rw [set_url hvalues] at hurl
    rw [set_baseUrl hvalues] at hbaseUrl
    cases hurl
    cases hbaseUrl
    exact ⟨hweb, hslashed⟩
  · rintro ⟨hweb, hslashed⟩
    exact ⟨not_firstMissing hvalues, ⟨_, set_url hvalues, hweb⟩, _, set_baseUrl hvalues, hslashed⟩

end Values

theorem hasWebUrl_iff : site.hasWebUrl = true ↔ IsWebUrl site.url := by
  rw [hasWebUrl, Bool.or_eq_true, Text.beginsWith_iff_isPrefix, Text.beginsWith_iff_isPrefix,
    IsWebUrl]

theorem hasSlashes_iff : site.hasSlashes = true ↔ IsSlashed site.baseUrl := by
  rw [hasSlashes, Bool.and_eq_true, Text.beginsWith_iff_isPrefix, Text.endsWith_iff_isSuffix,
    IsSlashed]

theorem validate_eq (site : EffectiveSite) :
    site.validate =
      if ¬IsWebUrl site.url then .error .urlScheme
      else if ¬IsSlashed site.baseUrl then .error (.baseUrlSlashes site.baseUrl)
      else .ok () := by
  simp only [validate, Bool.not_eq_true', ← Bool.not_eq_true, hasWebUrl_iff, hasSlashes_iff]

end EffectiveSite

/-! ### The effective site -/

section Outcome

variable {config : Config} {lower upper : SiteOptions} {profiles : Index SiteOptions}
  {forced : Option Policy} {profile : Option String} {result : Except ConfigError EffectiveSite}

theorem Requests.unique {other : SiteOptions} (hupper : Requests profiles profile upper)
    (hother : Requests profiles profile other) : upper = other := by
  cases hupper with
  | base =>
      cases hother
      rfl
  | profile hget =>
      cases hother with
      | profile hgot => exact Option.some.inj (hget.symm.trans hgot)

theorem Requests.get?_ne_none {name : String} (hupper : Requests profiles (some name) upper) :
    profiles.get? name ≠ none := by
  cases hupper with
  | profile hget => simp [hget]

theorem requests_iff : Requests config.profiles profile upper ↔
    config.profileOptions profile = .ok upper := by
  constructor
  · rintro (_ | hget)
    · rfl
    · rw [Config.profileOptions, hget]
  · intro hupper
    cases profile with
    | none =>
        cases hupper
        exact .base
    | some name =>
        rw [Config.profileOptions] at hupper
        split at hupper
        · rename_i options hget
          cases hupper
          exact .profile hget
        · cases hupper

theorem effective_of_unknown {name : String} (hget : config.profiles.get? name = none) :
    config.effective (some name) = .error (.unknownProfile name config.profiles.keys) := by
  rw [Config.effective, Config.profileOptions, hget]
  rfl

theorem effective_of_merge_eq_error {e : SiteError}
    (hupper : Requests config.profiles profile upper)
    (hmerge : config.site.merge upper = .error e) :
    config.effective profile = .error (.site e) := by
  rw [Config.effective, requests_iff.mp hupper]
  change Except.bind _ _ = _
  rw [Except.bind, hmerge]
  rfl

/-- A site that was merged is tested with the forced policy in it. -/
theorem effective_of_merge_eq_ok {merged : EffectiveSite}
    (hupper : Requests config.profiles profile upper)
    (hmerge : config.site.merge upper = .ok merged) :
    config.effective profile =
      ((merged.force config.forcedPolicy).validate.mapError .site).map fun _ =>
        merged.force config.forcedPolicy := by
  rw [Config.effective, requests_iff.mp hupper]
  change Except.bind _ _ = _
  rw [Except.bind, hmerge]
  cases config.forcedPolicy <;> rfl

theorem exists_requests_or_unknown (profiles : Index SiteOptions) (profile : Option String) :
    (∃ upper, Requests profiles profile upper) ∨
      ∃ name, profile = some name ∧ profiles.get? name = none := by
  cases profile with
  | none => exact .inl ⟨{}, .base⟩
  | some name =>
      cases hget : profiles.get? name with
      | none => exact .inr ⟨name, rfl, hget⟩
      | some upper => exact .inl ⟨upper, .profile hget⟩

/-- With a layer over the base, what comes first is the first required option that is missing; where
none is, it is the form of the address and then that of the path. -/
theorem effective_cases (hupper : Requests config.profiles profile upper) :
    (∃ option, FirstMissing (layered config.site upper) option ∧
      config.effective profile = .error (.site (.missing option))) ∨
    ∃ site : EffectiveSite,
      (∀ field, site.value? field =
        settled config.forcedPolicy (layered config.site upper) field) ∧
      config.effective profile =
        if ¬IsWebUrl site.url then .error (.site .urlScheme)
        else if ¬IsSlashed site.baseUrl then .error (.site (.baseUrlSlashes site.baseUrl))
        else .ok site := by
  rcases SiteOptions.merge_cases config.site upper with
    ⟨option, hfirst, hmerge⟩ | ⟨merged, hvalues, hmerge⟩
  · exact .inl ⟨option, hfirst, effective_of_merge_eq_error hupper hmerge⟩
  · refine .inr ⟨merged.force config.forcedPolicy,
      EffectiveSite.value?_force hvalues config.forcedPolicy, ?_⟩
    rw [effective_of_merge_eq_ok hupper hmerge, EffectiveSite.validate_eq]
    split
    · rfl
    · split <;> rfl

theorem outcome_effective (config : Config) (profile : Option String) :
    Outcome config.site config.profiles config.forcedPolicy profile (config.effective profile) := by
  rcases exists_requests_or_unknown config.profiles profile with
    ⟨upper, hupper⟩ | ⟨name, rfl, hget⟩
  · rcases effective_cases hupper with ⟨option, hfirst, heffective⟩ | ⟨site, hvalues, heffective⟩
    · rw [heffective]
      exact .missing hupper hfirst
    · have hset := EffectiveSite.not_firstMissing hvalues
      have hurl := EffectiveSite.set_url hvalues
      have hbaseUrl := EffectiveSite.set_baseUrl hvalues
      rw [heffective]
      split
      · rename_i hweb
        exact .urlScheme hupper hset hurl hweb
      · rename_i hweb
        rw [not_not] at hweb
        split
        · rename_i hslashed
          exact .slashes hupper hset hurl hweb hbaseUrl hslashed
        · rename_i hslashed
          rw [not_not] at hslashed
          exact .site hupper ((EffectiveSite.isComplete_iff hvalues).mpr ⟨hweb, hslashed⟩) hvalues
  · rw [effective_of_unknown hget]
    exact .unknown rfl hget

/-- Nothing else comes out. -/
theorem effective_of_outcome
    (houtcome : Outcome config.site config.profiles config.forcedPolicy profile result) :
    config.effective profile = result := by
  cases houtcome with
  | unknown hprofile hget =>
      subst hprofile
      exact effective_of_unknown hget
  | missing hupper hfirst =>
      rcases effective_cases hupper with ⟨option, hother, heffective⟩ | ⟨site, hvalues, -⟩
      · rw [heffective, hother.unique hfirst]
      · exact absurd hfirst (EffectiveSite.not_firstMissing hvalues _)
  | urlScheme hupper hset hurl hweb =>
      rcases effective_cases hupper with ⟨option, hother, -⟩ | ⟨site, hvalues, heffective⟩
      · exact absurd hother (hset option)
      · rw [EffectiveSite.set_url hvalues] at hurl
        cases hurl
        rw [heffective, if_pos hweb]
  | slashes hupper hset hurl hweb hbaseUrl hslashed =>
      rcases effective_cases hupper with ⟨option, hother, -⟩ | ⟨site, hvalues, heffective⟩
      · exact absurd hother (hset option)
      · rw [EffectiveSite.set_url hvalues] at hurl
        rw [EffectiveSite.set_baseUrl hvalues] at hbaseUrl
        cases hurl
        cases hbaseUrl
        rw [heffective, if_neg (not_not.mpr hweb), if_pos hslashed]
  | @site upper site hupper hcomplete hvalues =>
      rcases effective_cases hupper with ⟨option, hother, -⟩ | ⟨other, hothers, heffective⟩
      · exact absurd hother (hcomplete.not_missing option)
      · have hsame : other = site := EffectiveSite.eq_of_value? fun field =>
          (hothers field).trans (hvalues field).symm
        subst hsame
        obtain ⟨hweb, hslashed⟩ := (EffectiveSite.isComplete_iff hvalues).mp hcomplete
        rw [heffective, if_neg (not_not.mpr hweb), if_neg (not_not.mpr hslashed)]

theorem effective_eq_iff : config.effective profile = result ↔
    Outcome config.site config.profiles config.forcedPolicy profile result := by
  constructor
  · rintro rfl
    exact outcome_effective config profile
  · exact effective_of_outcome

/-- The outcome is a matter of the values that come out of the two layers. -/
theorem Outcome.of_layered {other upper' : SiteOptions} {profiles' : Index SiteOptions}
    {profile' : Option String} (hupper : Requests profiles profile upper)
    (hupper' : Requests profiles' profile' upper')
    (hlayered : ∀ field, layered lower upper field = layered other upper' field)
    (houtcome : Outcome lower profiles forced profile result) :
    Outcome other profiles' forced profile' result := by
  have hset : layered lower upper = layered other upper' := funext hlayered
  cases houtcome with
  | unknown hprofile hget =>
      subst hprofile
      exact absurd hget hupper.get?_ne_none
  | missing hrequested hfirst =>
      obtain rfl := hrequested.unique hupper
      exact .missing hupper' (hset ▸ hfirst)
  | urlScheme hrequested hnone hurl hweb =>
      obtain rfl := hrequested.unique hupper
      exact .urlScheme hupper' (hset ▸ hnone) (hset ▸ hurl) hweb
  | slashes hrequested hnone hurl hweb hbaseUrl hslashed =>
      obtain rfl := hrequested.unique hupper
      exact .slashes hupper' (hset ▸ hnone) (hset ▸ hurl) hweb (hset ▸ hbaseUrl) hslashed
  | site hrequested hcomplete hvalues =>
      obtain rfl := hrequested.unique hupper
      exact .site hupper' (hset ▸ hcomplete) (hset ▸ hvalues)

/-- What an option comes to depends on what the layers say of it, and of no other option. -/
theorem settled_congr {forced' : Option Policy} {field : SiteField} {other upper' : SiteOptions}
    (hupper : upper.value? field = upper'.value? field)
    (hlower : lower.value? field = other.value? field)
    (hforced : field = .brokenLinks → forced = forced') :
    settled forced (layered lower upper) field = settled forced' (layered other upper') field := by
  have hlayered : layered lower upper field = layered other upper' field := by
    rw [layered, layered, hupper, hlower]
  rw [settled, settled, hlayered]
  split
  · rename_i hfield
    rw [hforced hfield]
  · rfl

theorem values_of_effective {site : EffectiveSite} (hupper : Requests config.profiles profile upper)
    (heffective : config.effective profile = .ok site) (field : SiteField) :
    site.value? field = settled config.forcedPolicy (layered config.site upper) field := by
  cases effective_eq_iff.mp heffective with
  | site hrequested _ hvalues =>
      obtain rfl := hrequested.unique hupper
      exact hvalues field

/-- **Options are laid over one another one by one.** Whatever the base, the profiles and the policy
that is forced, the effective site under a profile is its `Outcome`: an unknown profile comes first,
then the first required option that is missing, then an address or a path below it that is not well
formed; otherwise every option has its value from the profile, from the base or by default, and only
the policy for sidebars may be forced. The value of an option depends on what is said of this option
by the base and by the profile that is asked for, and on nothing else; and the outcome as a whole
depends only on the values that come out, whatever stood below them. -/
theorem effective_by_layers (config : Config) (o : Overrides) (profile : Option String) :
    (∀ result, (config.override o).effective profile = result ↔
      Outcome config.site config.profiles (o.onBrokenLinks.or config.forcedPolicy) profile
        result) ∧
    ∀ (other : Config) (profile' : Option String) (upper upper' : SiteOptions),
      Requests config.profiles profile upper → Requests other.profiles profile' upper' →
      (∀ site site' field, config.effective profile = .ok site →
        other.effective profile' = .ok site' → upper.value? field = upper'.value? field →
        config.site.value? field = other.site.value? field →
        (field = .brokenLinks → config.forcedPolicy = other.forcedPolicy) →
        site.value? field = site'.value? field) ∧
      (config.forcedPolicy = other.forcedPolicy →
        (∀ field, layered config.site upper field = layered other.site upper' field) →
        other.effective profile' = config.effective profile) := by
  refine ⟨fun result => effective_eq_iff, fun other profile' upper upper' hupper hupper' => ?_⟩
  constructor
  · intro site site' field heffective heffective' hvalue hbase hforced
    calc site.value? field
        = settled config.forcedPolicy (layered config.site upper) field :=
          values_of_effective hupper heffective field
      _ = settled other.forcedPolicy (layered other.site upper') field :=
          settled_congr hvalue hbase hforced
      _ = site'.value? field := (values_of_effective hupper' heffective' field).symm
  · intro hforced hlayered
    rw [effective_eq_iff, ← hforced]
    exact (outcome_effective config profile).of_layered hupper hupper' hlayered

end Outcome

/-- A base whose address is no address of the web, and a profile with another one. -/
def preview : Config where
  site := { title := some "T", url := some "ftp://t", baseUrl := some "/" }
  profiles := Index.ofList [("next", { url := some "https://t.u", onBrokenLinks := some .throw })]
  docs := DocsOptions.resolve {} ⟨"/t"⟩

/-- The address below that of the profile does no harm, and without it nothing changes. -/
theorem effective_by_layers_sample :
    Requests preview.profiles (some "next")
        { url := some "https://t.u", onBrokenLinks := some .throw } ∧
      Outcome preview.site preview.profiles (some .ignore) (some "next")
        (.ok ⟨"T", none, "https://t.u", "/", none, none, none, .ignore, .warn⟩) ∧
      Outcome preview.site preview.profiles none none (.error (.site .urlScheme)) ∧
      { preview with site := { title := some "T", baseUrl := some "/" } }.effective (some "next") =
        preview.effective (some "next") := by
  have hupper : Requests preview.profiles (some "next")
      { url := some "https://t.u", onBrokenLinks := some .throw } := .profile (by decide +kernel)
  obtain ⟨hforced, hsame⟩ :=
    effective_by_layers preview { onBrokenLinks := some .ignore } (some "next")
  obtain ⟨hbase, -⟩ := effective_by_layers preview {} none
  refine ⟨hupper, (hforced _).mp (by decide +kernel), (hbase _).mp (by decide +kernel), ?_⟩
  refine (hsame _ _ _ _ hupper hupper).2 rfl fun field => ?_
  cases field <;> rfl

end Signpost
