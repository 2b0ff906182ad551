import Signpost.Config
import Signpost.Proofs.IndexLookup
import Signpost.Proofs.ReferenceReplacement

/-!
# References that cannot be replaced

A reference is bad if another one opens in its braces, or if it has no default and its variable is
not set. The texts of a configuration are visited table by table and option by option, and the first
one with a bad reference is the one that is told of. Which of its references the message shows is
not a matter of their order alone: one in which another opens comes before all that are not set.
-/

namespace Signpost

/-- The element has the property, and it is the first one of the list that has it. -/
def FirstOf {α : Type} (p : α → Prop) (all : List α) (a : α) : Prop :=
  ∃ front back, all = front ++ a :: back ∧ p a ∧ ∀ b ∈ front, ¬p b

namespace FirstOf

variable {α : Type} {p : α → Prop} {front all back : List α} {a : α}

theorem mem (hfirst : FirstOf p all a) : a ∈ all := by
  obtain ⟨front, back, rfl, -, -⟩ := hfirst
  simp

theorem holds (hfirst : FirstOf p all a) : p a := by
  obtain ⟨_, _, _, ha, _⟩ := hfirst
  exact ha

theorem append_right (hfirst : FirstOf p all a) (back : List α) : FirstOf p (all ++ back) a := by
  obtain ⟨before, after, rfl, ha, hbefore⟩ := hfirst
  exact ⟨before, after ++ back, by simp, ha, hbefore⟩

theorem append_left (hfront : ∀ b ∈ front, ¬p b) (hfirst : FirstOf p all a) :
    FirstOf p (front ++ all) a := by
  obtain ⟨before, after, rfl, ha, hbefore⟩ := hfirst
  refine ⟨front ++ before, after, by simp, ha, fun b hb => ?_⟩
  rcases List.mem_append.mp hb with hb | hb
  · exact hfront b hb
  · exact hbefore b hb

theorem of_find? {test : α → Bool} (htest : ∀ a, test a = true ↔ p a)
    (hfind : all.find? test = some a) : FirstOf p all a := by
  obtain ⟨ha, front, back, rfl, hfront⟩ := List.find?_eq_some_iff_append.mp hfind
  refine ⟨front, back, rfl, (htest a).mp ha, fun b hb hp => ?_⟩
  have hfails := hfront b hb
  rw [(htest b).mpr hp] at hfails
  cases hfails

end FirstOf

namespace Expansion

variable {lookup : String → Option String} {c : Char} {cs inner : List Char}
  {found : List (List Char)} {value : String}

/-- What a reference begins with. -/
def opening : List Char := ['$', '\x7b']

/-- The texts in the braces of the closed references, from left to right. Every reference ends at
the first closing brace, and the next one is looked for behind it. -/
inductive HasReferences : List Char → List (List Char) → Prop where
  | nil : HasReferences [] []
  | reference {inner after : List Char} {found : List (List Char)} : '\x7d' ∉ inner →
      HasReferences after found →
        HasReferences (opening ++ inner ++ '\x7d' :: after) (inner :: found)
  | char {c : Char} {cs : List Char} {found : List (List Char)} :
      beginsReference (c :: cs) = false → HasReferences cs found → HasReferences (c :: cs) found

/-- Another reference opens in the braces. -/
def IsNested (inner : List Char) : Prop :=
  opening <:+: inner

/-- The reference has no default, and it is not the name of a variable that is set. -/
def IsMissing (lookup : String → Option String) (inner : List Char) : Prop :=
  ¬mark <:+: inner ∧ lookup (String.ofList inner) = none

/-- One of the references in the value cannot be replaced. -/
def HasBad (lookup : String → Option String) (value : String) : Prop :=
  ∃ found, HasReferences value.toList found ∧
    ∃ inner ∈ found, IsNested inner ∨ IsMissing lookup inner

/-- The message is the right one for a value with a bad reference. -/
inductive Tells (lookup : String → Option String) (value : String) : String → Prop where
  | nested {found : List (List Char)} {inner : List Char} : HasReferences value.toList found →
      FirstOf IsNested found inner →
        Tells lookup value
          ("nested reference in '$\x7b" ++ String.ofList inner ++ "\x7d' is not supported")
  | missing {found : List (List Char)} {inner : List Char} : HasReferences value.toList found →
      (∀ other ∈ found, ¬IsNested other) → FirstOf (IsMissing lookup) found inner →
        Tells lookup value ("$\x7b" ++ String.ofList inner ++ "\x7d not set")

/-! ### The scan and the two searches -/

theorem opensBrace_iff : opensBrace cs = true ↔ opening <:+: cs := by
  fun_induction opensBrace cs with
  | case1 rest => exact iff_of_true rfl ⟨[], rest, rfl⟩
  | case2 c cs hopen ih =>
      have hbegins : ¬opening <+: c :: cs := by
        rintro ⟨rest, hrest⟩
        cases hrest
        exact hopen rest rfl rfl
      rw [ih, List.infix_cons_iff, or_iff_right hbegins]
  | case3 => simp [opening]

theorem isMissing_iff :
    ((cutDefault inner).isNone && (lookup (String.ofList inner)).isNone) = true ↔
      IsMissing lookup inner := by
  rw [Bool.and_eq_true, Option.isNone_iff_eq_none, Option.isNone_iff_eq_none,
    cutDefault_eq_none_iff, IsMissing]

theorem hasReferences_referencesFrom (cs : List Char) :
    HasReferences cs (referencesFrom none cs) := by
  induction cs using scanInduction with
  | nil => exact .nil
  | reference inner after hinner ih =>
      rw [referencesFrom_reference hinner]
      exact .reference hinner ih
  | char c cs hbegins ih =>
      rw [referencesFrom_cons hbegins]
      exact .char hbegins ih

theorem HasReferences.eq_referencesFrom (hfound : HasReferences cs found) :
    found = referencesFrom none cs := by
  induction hfound with
  | nil => rfl
  | reference hinner _ ih =>
      rw [ih]
      exact (referencesFrom_reference hinner _).symm
  | char hbegins _ ih => rw [referencesFrom_cons hbegins, ih]

theorem hasReferences_iff : HasReferences cs found ↔ found = referencesFrom none cs :=
  ⟨HasReferences.eq_referencesFrom, fun hfound => hfound ▸ hasReferences_referencesFrom cs⟩

/-- A text in which no reference opens has none. -/
theorem referencesFrom_of_not_opens (hopen : ¬opening <:+: cs) : referencesFrom none cs = [] := by
  induction cs using scanInduction with
  | nil => rfl
  | reference inner after hinner ih =>
      exact absurd (List.prefix_append opening (inner ++ '\x7d' :: after)).isInfix hopen
  | char c cs hbegins ih =>
      rw [referencesFrom_cons hbegins]
      exact ih fun hinfix => hopen (List.infix_cons hinfix)

theorem hasBad_iff :
    HasBad lookup value ↔
      ∃ inner ∈ referencesFrom none value.toList, IsNested inner ∨ IsMissing lookup inner := by
  simp only [HasBad, hasReferences_iff, exists_eq_left]

theorem not_hasBad_iff :
    ¬HasBad lookup value ↔ (∀ inner ∈ referencesFrom none value.toList, ¬IsNested inner) ∧
      ∀ inner ∈ referencesFrom none value.toList, ¬IsMissing lookup inner := by
  simp only [hasBad_iff, not_exists, not_and, not_or, forall_and]

/-- A message is only told of a value with a bad reference. -/
theorem Tells.hasBad {message : String} (htells : Tells lookup value message) :
    HasBad lookup value := by
  cases htells with
  | nested hfound hfirst => exact ⟨_, hfound, _, hfirst.mem, .inl hfirst.holds⟩
  | missing hfound _ hfirst => exact ⟨_, hfound, _, hfirst.mem, .inr hfirst.holds⟩

/-! ### One value -/

theorem expand_of_not_opens (hopen : ¬opening <:+: value.toList) :
    expand lookup value = .ok value := by
  rw [← opensBrace_iff, Bool.not_eq_true] at hopen
  simp [expand, hopen]

/-- An expansion fails with the right message, or the value has no bad reference. -/
theorem expand_reports (lookup : String → Option String) (value : String) :
    match expand lookup value with
    | .ok _ => ¬HasBad lookup value
    | .error fault => Tells lookup value fault.message := by
  have hfound := hasReferences_referencesFrom value.toList
  by_cases hopen : opening <:+: value.toList
  · rw [expand, opensBrace_iff.mpr hopen, Bool.not_true, if_neg Bool.false_ne_true]
    dsimp only [references]
    cases hnested : (referencesFrom none value.toList).find? opensBrace with
    | some inner => exact .nested hfound (.of_find? (fun _ => opensBrace_iff) hnested)
    | none =>
        have hflat : ∀ inner ∈ referencesFrom none value.toList, ¬IsNested inner :=
          fun inner hinner hopens =>
            List.find?_eq_none.mp hnested inner hinner (opensBrace_iff.mpr hopens)
        dsimp only
        cases hunset : (referencesFrom none value.toList).find? fun inner =>
            (cutDefault inner).isNone && (lookup (String.ofList inner)).isNone with
        | some inner => exact .missing hfound hflat (.of_find? (fun _ => isMissing_iff) hunset)
        | none =>
            refine not_hasBad_iff.mpr ⟨hflat, fun inner hinner hbad => ?_⟩
            exact List.find?_eq_none.mp hunset inner hinner (isMissing_iff.mpr hbad)
  · rw [expand_of_not_opens hopen]
    dsimp only
    rw [hasBad_iff, referencesFrom_of_not_opens hopen]
    simp

end Expansion

open Expansion

/-! ### The texts of a configuration -/

/-- The options in which references are replaced, with the names that they have in an error. -/
def SiteOptions.expandable (table : String) (options : SiteOptions) :
    List (String × Option String) := [
  (table ++ ".title", options.title),
  (table ++ ".url", options.url),
  (table ++ ".base_url", options.baseUrl),
  (table ++ ".edit_url", options.editUrl)]

def setTexts (options : List (String × Option String)) : List (String × String) :=
  options.filterMap fun (name, value) => value.map fun value => (name, value)

/-- The tables with options for the site, in the order in which they are visited: after the site
itself its profiles, in the order of their names. -/
def ConfigText.tables (text : ConfigText) : List (String × SiteOptions) :=
  ("site", text.site) :: text.profiles.entries.map fun (name, options) =>
    ("profiles." ++ name, options)

/-- The texts that are visited, each with the name of its option. -/
def ConfigText.visited (text : ConfigText) : List (String × String) :=
  text.tables.flatMap fun (table, options) => setTexts (options.expandable table)

/-- A value that is set or unset, and what an expansion makes of it. -/
inductive ExpandsTo (lookup : String → Option String) : Option String → Option String → Prop where
  | unset : ExpandsTo lookup none none
  | plain {value : String} : ¬opening <:+: value.toList →
      ExpandsTo lookup (some value) (some value)
  | replaced {value expanded : String} : opening <:+: value.toList →
      expand lookup value = .ok expanded → ExpandsTo lookup (some value) (some expanded)

/-- Options before and after an expansion. -/
structure OptionsExpandTo (lookup : String → Option String) (before after : SiteOptions) :
    Prop where
  title : ExpandsTo lookup before.title after.title
  url : ExpandsTo lookup before.url after.url
  baseUrl : ExpandsTo lookup before.baseUrl after.baseUrl
  editUrl : ExpandsTo lookup before.editUrl after.editUrl
  tagline_eq : after.tagline = before.tagline
  organizationName_eq : after.organizationName = before.organizationName
  projectName_eq : after.projectName = before.projectName
  onBrokenLinks_eq : after.onBrokenLinks = before.onBrokenLinks
  onBrokenMarkdownLinks_eq : after.onBrokenMarkdownLinks = before.onBrokenMarkdownLinks

/-- The action fails at the first of the texts that has a bad reference, and the error names its
option and tells of the reference; or none of the texts has one. -/
def Reports (lookup : String → Option String) {β : Type} (texts : List (String × String)) :
    Except ConfigError β → Prop
  | .ok _ => ∀ text ∈ texts, ¬HasBad lookup text.2
  | .error e => ∃ option value fault,
      FirstOf (fun text => HasBad lookup text.2) texts (option, value) ∧
        e = .environment option fault ∧ Tells lookup value fault.message

section Reports

variable {lookup : String → Option String} {α β : Type} {texts others : List (String × String)}

theorem Reports.ok (b : β) : Reports lookup [] (.ok b) := by
  simp [Reports]

/-- An action that reports on some texts may be followed by one that reports on others. -/
theorem Reports.bind {action : Except ConfigError α} {next : α → Except ConfigError β}
    (haction : Reports lookup texts action)
    (hnext : ∀ a, action = .ok a → Reports lookup others (next a)) :
    Reports lookup (texts ++ others) (action >>= next) := by
  cases action with
  | error e =>
      obtain ⟨option, value, fault, hfirst, rfl, htells⟩ := haction
      exact ⟨option, value, fault, hfirst.append_right others, rfl, htells⟩
  | ok a =>
      have hrest := hnext a rfl
      change Reports lookup (texts ++ others) (next a)
      cases hresult : next a with
      | error e =>
          rw [hresult] at hrest
          obtain ⟨option, value, fault, hfirst, rfl, htells⟩ := hrest
          exact ⟨option, value, fault, hfirst.append_left haction, rfl, htells⟩
      | ok b =>
          rw [hresult] at hrest
          exact List.forall_mem_append.mpr ⟨haction, hrest⟩

/-- What is made of the result makes no difference. -/
theorem Reports.bind_ok {action : Except ConfigError α} (haction : Reports lookup texts action)
    (f : α → β) : Reports lookup texts (action >>= fun a => .ok (f a)) := by
  have hthen := haction.bind fun a _ => Reports.ok (f a)
  rwa [List.append_nil] at hthen

theorem setTexts_cons (option : String × Option String) (options : List (String × Option String)) :
    setTexts (option :: options) = setTexts [option] ++ setTexts options := by
  rw [← List.singleton_append, setTexts, List.filterMap_append]
  rfl

theorem reports_expandOption (lookup : String → Option String) (name : String)
    (value : Option String) :
    Reports lookup (setTexts [(name, value)]) (SiteOptions.expandOption lookup name value) := by
  cases value with
  | none => exact .ok none
  | some value =>
      have hreports := expand_reports lookup value
      rw [SiteOptions.expandOption]
      cases hexpand : expand lookup value with
      | ok expanded =>
          rw [hexpand] at hreports
          simpa [Reports, setTexts] using hreports
      | error fault =>
          rw [hexpand] at hreports
          exact ⟨name, value, fault, ⟨[], [], rfl, hreports.hasBad, by simp⟩, rfl, hreports⟩

theorem reports_expandAll (lookup : String → Option String) (table : String)
    (options : SiteOptions) :
    Reports lookup (setTexts (options.expandable table)) (options.expandAll lookup table) := by
  rw [SiteOptions.expandable, setTexts_cons, setTexts_cons _ (_ :: _ :: _), setTexts_cons _ [_]]
  refine (reports_expandOption lookup _ options.title).bind fun title _ => ?_
  refine (reports_expandOption lookup _ options.url).bind fun url _ => ?_
  refine (reports_expandOption lookup _ options.baseUrl).bind fun baseUrl _ => ?_
  exact (reports_expandOption lookup _ options.editUrl).bind_ok _

theorem reports_tryMapEntries {f : String → α → Except ConfigError β}
    {textsOf : String → α → List (String × String)}
    (hf : ∀ key value, Reports lookup (textsOf key value) (f key value))
    (entries : List (String × α)) :
    Reports lookup (entries.flatMap fun (key, value) => textsOf key value)
      (Index.tryMapEntries f entries) := by
  induction entries with
  | nil => exact .ok []
  | cons entry entries ih =>
      rw [List.flatMap_cons]
      exact (hf entry.1 entry.2).bind fun changed _ => ih.bind_ok _

theorem reports_tryMap {f : String → α → Except ConfigError β}
    {textsOf : String → α → List (String × String)}
    (hf : ∀ key value, Reports lookup (textsOf key value) (f key value)) (index : Index α) :
    Reports lookup (index.entries.flatMap fun (key, value) => textsOf key value)
      (index.tryMap f) := by
  have hentries := reports_tryMapEntries hf index.entries
  unfold Index.tryMap
  split
  · rename_i changed hchanged
    rwa [hchanged] at hentries
  · rename_i e hfails
    rwa [hfails] at hentries

theorem reports_ofText (text : ConfigText) (lookup : String → Option String) (base : Path) :
    Reports lookup text.visited (Config.ofText text lookup base) := by
  rw [ConfigText.visited, ConfigText.tables, List.flatMap_cons, List.flatMap_map]
  have hprofiles := reports_tryMap
    (fun name options => reports_expandAll lookup ("profiles." ++ name) options) text.profiles
  refine (reports_expandAll lookup "site" text.site).bind fun site _ => ?_
  exact hprofiles.bind_ok _

end Reports

/-! ### What an expansion leaves alone -/

section Unchanged

variable {lookup : String → Option String} {table : String} {before after : SiteOptions}

theorem expandsTo_of_expandOption {name : String} {value expanded : Option String}
    (hexpand : SiteOptions.expandOption lookup name value = .ok expanded) :
    ExpandsTo lookup value expanded := by
  cases value with
  | none =>
      cases hexpand
      exact .unset
  | some value =>
      by_cases hopen : opening <:+: value.toList
      · rw [SiteOptions.expandOption] at hexpand
        split at hexpand
        · rename_i value' hvalue
          cases hexpand
          exact .replaced hopen hvalue
        · cases hexpand
      · rw [SiteOptions.expandOption, expand_of_not_opens hopen] at hexpand
        cases hexpand
        exact .plain hopen

theorem optionsExpandTo_of_expandAll (hexpand : before.expandAll lookup table = .ok after) :
    OptionsExpandTo lookup before after := by
  obtain ⟨title, htitle, hexpand⟩ := bind_eq_ok_iff.mp hexpand
  obtain ⟨url, hurl, hexpand⟩ := bind_eq_ok_iff.mp hexpand
  obtain ⟨baseUrl, hbaseUrl, hexpand⟩ := bind_eq_ok_iff.mp hexpand
  obtain ⟨editUrl, heditUrl, hexpand⟩ := bind_eq_ok_iff.mp hexpand
  cases hexpand
  exact {
    title := expandsTo_of_expandOption htitle
    url := expandsTo_of_expandOption hurl
    baseUrl := expandsTo_of_expandOption hbaseUrl
    editUrl := expandsTo_of_expandOption heditUrl
    tagline_eq := rfl
    organizationName_eq := rfl
    projectName_eq := rfl
    onBrokenLinks_eq := rfl
    onBrokenMarkdownLinks_eq := rfl }

end Unchanged

/-- What is written in a file, and the configuration that an expansion makes of it. -/
structure ConfigExpandsTo (lookup : String → Option String) (text : ConfigText) (config : Config) :
    Prop where
  site : OptionsExpandTo lookup text.site config.site
  keys_eq : config.profiles.keys = text.profiles.keys
  profiles : ∀ name before, text.profiles.get? name = some before →
    ∃ after, config.profiles.get? name = some after ∧ OptionsExpandTo lookup before after

section OfText

variable {lookup : String → Option String} {text : ConfigText} {base : Path} {config : Config}

/-- The site and the profiles are expanded, and the places are seen from the base. -/
theorem eq_of_ofText (hconfig : Config.ofText text lookup base = .ok config) :
    ∃ site profiles, text.site.expandAll lookup "site" = .ok site ∧
      text.profiles.tryMap (fun name options => options.expandAll lookup ("profiles." ++ name)) =
        .ok profiles ∧
      config = { site, profiles, docs := text.docs.resolve base } := by
  obtain ⟨site, hsite, hrest⟩ := bind_eq_ok_iff.mp hconfig
  obtain ⟨profiles, hprofiles, hpure⟩ := bind_eq_ok_iff.mp hrest
  cases hpure
  exact ⟨site, profiles, hsite, hprofiles, rfl⟩

theorem configExpandsTo_of_ofText (hconfig : Config.ofText text lookup base = .ok config) :
    ConfigExpandsTo lookup text config := by
  obtain ⟨site, profiles, hsite, hprofiles, rfl⟩ := eq_of_ofText hconfig
  refine ⟨optionsExpandTo_of_expandAll hsite, Index.keys_tryMap hprofiles, ?_⟩
  intro name before hbefore
  obtain ⟨after, hafter, hget⟩ := Index.get?_tryMap hprofiles hbefore
  exact ⟨after, hget, optionsExpandTo_of_expandAll hafter⟩

end OfText

/-- **An expansion fails exactly on a bad reference, and it names the first text that has one.** The
texts are those of the site and then those of every profile. If the expansion succeeds, all other
options, unset options, texts in which no reference opens and the names of the profiles are what
they were. -/
theorem ofText_reports_first (text : ConfigText) (lookup : String → Option String) (base : Path) :
    ((∃ e, Config.ofText text lookup base = .error e) ↔
        ∃ visited ∈ text.visited, HasBad lookup visited.2) ∧
      (∀ e, Config.ofText text lookup base = .error e →
        ∃ option value fault,
          FirstOf (fun visited => HasBad lookup visited.2) text.visited (option, value) ∧
            e = .environment option fault ∧ Tells lookup value fault.message) ∧
      ∀ config, Config.ofText text lookup base = .ok config →
        ConfigExpandsTo lookup text config := by
  have hreports := reports_ofText text lookup base
  refine ⟨?_, fun e he => ?_, fun config => configExpandsTo_of_ofText⟩
  · cases hresult : Config.ofText text lookup base with
    | ok config =>
        rw [hresult] at hreports
        refine iff_of_false (by simp) ?_
        rintro ⟨visited, hvisited, hbad⟩
        exact hreports visited hvisited hbad
    | error e =>
        rw [hresult] at hreports
        obtain ⟨option, value, fault, hfirst, -, -⟩ := hreports
        exact iff_of_true ⟨e, rfl⟩ ⟨(option, value), hfirst.mem, hfirst.holds⟩
  · rwa [he] at hreports

/-- The second profile has a missing reference in front of a nested one, and the third one has a
missing reference. A default and a tagline are in order. -/
def faultyText : ConfigText where
  site := { title := some "$HOME", tagline := some "$\x7bA\x7d" }
  profiles := Index.ofList [("c", { url := some "$\x7bA\x7d" }),
    ("b", { title := some "$\x7bA\x7d $\x7bA:-$\x7bB\x7d\x7d" }),
    ("a", { editUrl := some "$\x7bA:-x\x7d" })]

theorem ofText_reports_first_sample :
    let lookup : String → Option String := fun _ => none
    let value := "$\x7bA\x7d $\x7bA:-$\x7bB\x7d\x7d"
    let fault := ExpansionFault.nested "A:-$\x7bB"
    Config.ofText faultyText lookup ⟨"/"⟩ = .error (.environment "profiles.b.title" fault) ∧
      FirstOf (fun visited => HasBad lookup visited.2) faultyText.visited
        ("profiles.b.title", value) ∧
      Tells lookup value fault.message := by
  intro lookup value fault
  have hfails : Config.ofText faultyText lookup ⟨"/"⟩ =
      .error (.environment "profiles.b.title" fault) := by rfl
  obtain ⟨option, found, cause, hfirst, hcause, htells⟩ :=
    (ofText_reports_first faultyText lookup ⟨"/"⟩).2.1 _ hfails
  cases hcause
  have hvisited : faultyText.visited = [("site.title", "$HOME"),
      ("profiles.a.edit_url", "$\x7bA:-x\x7d"), ("profiles.b.title", value),
      ("profiles.c.url", "$\x7bA\x7d")] := by rfl
  have hmem := hfirst.mem
  rw [hvisited] at hmem
  obtain rfl : found = value := by simpa using hmem
  exact ⟨hfails, hfirst, htells⟩

end Signpost
