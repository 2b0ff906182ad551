import Signpost.Proofs.CutAndJoin
import Signpost.Proofs.NamedSidebars
import Signpost.Proofs.SessionRuns

/-!
# What a check shows

A check goes through the sidebars in the order of their names and then through the links, whatever
it finds on the way. What it shows is therefore put together from what is found in each place: the
warnings where the policy of the place asks for them, and at the end, all at once, the references
that are fatal.
-/

namespace Signpost

namespace Policy

variable (policy : Policy) (unresolved : List Unresolved)

/-- The references that are warned of. -/
def warned : List Unresolved :=
  if policy = .warn then unresolved else []

/-- The references that are a reason to fail. -/
def fatal : List Unresolved :=
  if policy = .throw then unresolved else []

theorem judge_nil_eq :
    policy.judge unresolved [] =
      ⟨if policy.fatal unresolved = [] then .ok () else .error ⟨policy.fatal unresolved⟩,
        policy.warned unresolved⟩ := by
  cases policy with
  | ignore => simp [fatal, warned]
  | warn => simp [fatal, warned]
  | throw =>
      by_cases hnil : unresolved = []
      · simp [hnil, fatal, warned]
      · simp [judge_throw_of_ne_nil _ hnil, hnil, fatal, warned]

theorem ofParsed_nil_eq (parsed : ParsedSpec) :
    Navigation.ofParsed parsed policy [] =
      ⟨if policy.fatal parsed.unresolved = [] then .ok (Navigation.ofItems parsed.items)
        else .error (.fatal ⟨policy.fatal parsed.unresolved⟩),
        policy.warned parsed.unresolved⟩ := by
  rw [Navigation.ofParsed, judge_nil_eq]
  by_cases hnil : policy.fatal parsed.unresolved = [] <;> simp [hnil]

/-- What is fatal is not warned of as well. -/
theorem warned_eq_nil (hfatal : policy.fatal unresolved ≠ []) : policy.warned unresolved = [] := by
  unfold fatal at hfatal
  unfold warned
  cases policy <;> simp_all

/-- Either all references are a reason to fail, or none. -/
theorem fatal_eq_self (hfatal : policy.fatal unresolved ≠ []) :
    policy.fatal unresolved = unresolved := by
  unfold fatal at hfatal ⊢
  split at hfatal
  next hthrow => exact if_pos hthrow
  next => exact absurd rfl hfatal

theorem warned_append (more : List Unresolved) :
    policy.warned (unresolved ++ more) = policy.warned unresolved ++ policy.warned more := by
  unfold warned
  split <;> rfl

theorem warned_flatMap {α : Type} (parts : List α) (f : α → List Unresolved) :
    policy.warned (parts.flatMap f) = parts.flatMap fun part => policy.warned (f part) := by
  unfold warned
  split <;> simp

theorem fatal_append (more : List Unresolved) :
    policy.fatal (unresolved ++ more) = policy.fatal unresolved ++ policy.fatal more := by
  unfold fatal
  split <;> rfl

/-- What is fatal in one place is fatal in all of them together. -/
theorem mem_fatal_flatMap {policy : Policy} {α : Type} {parts : List α} {part : α}
    {f : α → List Unresolved} {u : Unresolved} (hpart : part ∈ parts)
    (hu : u ∈ policy.fatal (f part)) : u ∈ policy.fatal (parts.flatMap f) := by
  unfold fatal at hu ⊢
  split at hu
  next hthrow =>
    rw [if_pos hthrow]
    exact List.mem_flatMap.mpr ⟨part, hpart, hu⟩
  next => cases hu

end Policy

namespace Sidebars

/-- Every sidebar can be read. -/
def WellFormed (s : Sidebars) (registry : Registry) : Prop :=
  ∀ name ∈ s.names, ∃ parsed, s.parse name registry = .ok parsed

theorem wellFormed_iff {s : Sidebars} {registry : Registry} :
    s.WellFormed registry ↔ ∀ name ∈ s.names, (s.parse name registry).toOption.isSome = true := by
  apply forall₂_congr
  intro name _
  cases s.parse name registry with
  | error cause => simp [Except.toOption]
  | ok parsed => simp [Except.toOption]

instance (s : Sidebars) (registry : Registry) : Decidable (s.WellFormed registry) :=
  decidable_of_iff _ wellFormed_iff.symm

/-- The unresolved references of all sidebars: the sidebars in the order of their names, and the
references of each in document order, with its name in front of the labels around them. -/
def unresolved (s : Sidebars) (registry : Registry) : List Unresolved :=
  s.specs.entries.flatMap fun entry =>
    (Spec.unresolved registry.contains entry.2).map (Unresolved.under entry.1)

/-- What a sidebar says, where it can be read. -/
def reading (s : Sidebars) (registry : Registry) (name : String) : ParsedSpec :=
  match s.parse name registry with
  | .ok parsed => parsed
  | .error _ => {}

variable {s : Sidebars} {registry : Registry} {name : String} {spec : Json} {parsed : ParsedSpec}

theorem reading_eq (hparse : s.parse name registry = .ok parsed) :
    s.reading registry name = parsed := by
  rw [reading, hparse]

theorem mem_names_of_parse (hparse : s.parse name registry = .ok parsed) : name ∈ s.names := by
  unfold parse at hparse
  split at hparse
  next => cases hparse
  next spec hget => exact List.mem_map.mpr ⟨(name, spec), Index.get?_eq_some_iff.mp hget, rfl⟩

theorem unresolved_of_parse (hget : s.get? name = some spec)
    (hparse : s.parse name registry = .ok parsed) :
    parsed.unresolved = (Spec.unresolved registry.contains spec).map (Unresolved.under name) := by
  rw [parse_of_get?_eq_some hget, Spec.parseNamed_eq_readUnder] at hparse
  cases hbare : Spec.parse spec registry with
  | error cause =>
      rw [hbare] at hparse
      cases hparse
  | ok bare =>
      rw [hbare] at hparse
      cases hparse
      obtain ⟨-, -, rfl⟩ := Spec.parse_eq_ok_iff.mp hbare
      rfl

/-- In well-formed sidebars, what each says of its references is what is unresolved in it. -/
theorem WellFormed.flatMap_reading (hwell : s.WellFormed registry) :
    s.names.flatMap (fun name => (s.reading registry name).unresolved) = s.unresolved registry := by
  rw [names, Index.keys, List.flatMap_map, unresolved]
  apply List.flatMap_congr
  rintro ⟨name, spec⟩ hentry
  have hname : name ∈ s.names := List.mem_map.mpr ⟨(name, spec), hentry, rfl⟩
  obtain ⟨parsed, hparse⟩ := hwell name hname
  rw [reading_eq hparse, unresolved_of_parse (Index.get?_eq_some_iff.mpr hentry) hparse]

end Sidebars

namespace Commands

open Session

variable {p : Project} {registry : Registry} {s : Sidebars} {name : String} {parsed : ParsedSpec}

/-- The line that is shown for a sidebar with a navigation. -/
def sidebarLine (name : String) (count : Nat) : String :=
  "Sidebar '" ++ name ++ "': " ++ toString count ++ " documents"

/-- All lines that are shown for a sidebar. -/
def sidebarLines (policy : Policy) (name : String) (parsed : ParsedSpec) : List String :=
  (policy.warned parsed.unresolved).map warning ++
    if policy.fatal parsed.unresolved = [] then
      [sidebarLine name (Navigation.ofItems parsed.items).length]
    else []

/-- What is found where these references are unresolved. -/
def Findings.ofUnresolved (policy : Policy) (unresolved : List Unresolved) : Findings :=
  ⟨(policy.warned unresolved).length, policy.fatal unresolved⟩

theorem Findings.ofUnresolved_of_eq_nil {policy : Policy} {unresolved : List Unresolved}
    (hnil : policy.fatal unresolved = []) :
    ofUnresolved policy unresolved = { warnings := (policy.warned unresolved).length } := by
  rw [ofUnresolved, hnil]

theorem Findings.ofUnresolved_of_ne_nil {policy : Policy} {unresolved : List Unresolved}
    (hne : policy.fatal unresolved ≠ []) :
    ofUnresolved policy unresolved = { fatal := policy.fatal unresolved } := by
  rw [ofUnresolved, policy.warned_eq_nil unresolved hne]
  rfl

theorem gives_checkSidebar (hparse : s.parse name registry = .ok parsed) :
    Gives (checkSidebar p registry s name)
      (.ok (.ofUnresolved p.site.brokenLinkPolicy parsed.unresolved))
      (sidebarLines p.site.brokenLinkPolicy name parsed) := by
  have houtcome : s.resolve name registry p.site.brokenLinkPolicy [] =
      Navigation.ofParsed parsed p.site.brokenLinkPolicy [] := by
    rw [Sidebars.resolve, hparse]
  unfold checkSidebar
  rw [houtcome, Policy.ofParsed_nil_eq]
  apply (gives_warn _).bind
  by_cases hnil : p.site.brokenLinkPolicy.fatal parsed.unresolved = []
  · rw [Findings.ofUnresolved_of_eq_nil hnil]
    simp only [hnil, if_true]
    exact (gives_say _).bind_pure
  · rw [Findings.ofUnresolved_of_ne_nil hnil]
    simp only [hnil, if_false]
    exact gives_pure _

/-- Sidebars are checked one after the other, and what is found in them is put together. -/
theorem gives_checkSidebars {names : List String}
    (hparses : ∀ name ∈ names, ∃ parsed, s.parse name registry = .ok parsed) :
    Gives (checkSidebars p registry s names)
      (.ok (.ofUnresolved p.site.brokenLinkPolicy
        (names.flatMap fun name => (s.reading registry name).unresolved)))
      (names.flatMap fun name =>
        sidebarLines p.site.brokenLinkPolicy name (s.reading registry name)) := by
  induction names with
  | nil =>
      have hnone : Findings.ofUnresolved p.site.brokenLinkPolicy [] = {} := by
        simp [Findings.ofUnresolved, Policy.warned, Policy.fatal]
      rw [List.flatMap_nil, List.flatMap_nil, hnone]
      exact gives_pure _
  | cons name names ih =>
      obtain ⟨⟨parsed, hparse⟩, hrest⟩ := List.forall_mem_cons.mp hparses
      have hfirst := gives_checkSidebar (p := p) hparse
      rw [← Sidebars.reading_eq hparse] at hfirst
      have hsum : Findings.ofUnresolved p.site.brokenLinkPolicy
          ((name :: names).flatMap fun name => (s.reading registry name).unresolved) =
            (Findings.ofUnresolved p.site.brokenLinkPolicy
              (s.reading registry name).unresolved).append
                (.ofUnresolved p.site.brokenLinkPolicy
                  (names.flatMap fun name => (s.reading registry name).unresolved)) := by
        rw [List.flatMap_cons, Findings.ofUnresolved, Policy.warned_append, Policy.fatal_append,
          List.length_append]
        rfl
      rw [hsum, List.flatMap_cons]
      exact hfirst.bind (ih hrest).bind_pure

theorem gives_checkLinks :
    Gives (checkLinks p registry)
      (.ok (.ofUnresolved p.site.brokenMarkdownLinkPolicy (Link.check registry)))
      ((p.site.brokenMarkdownLinkPolicy.warned (Link.check registry)).map warning) := by
  unfold checkLinks
  rw [Policy.judge_nil_eq]
  by_cases hnil : p.site.brokenMarkdownLinkPolicy.fatal (Link.check registry) = []
  · rw [Findings.ofUnresolved_of_eq_nil hnil]
    simp only [hnil, if_true]
    exact (gives_warn _).bind_pure
  · rw [Findings.ofUnresolved_of_ne_nil hnil]
    simp only [hnil, if_false]
    exact (gives_warn _).bind_pure

/-! ### The whole check -/

/-- The project can be loaded, with its documents and its sidebars. -/
structure Loads (w : Workspace) (o : Options) (p : Project) (registry : Registry)
    (s : Sidebars) : Prop where
  project : Project.load w o = .ok p
  documents : p.registry w = .ok registry
  sidebars : p.sidebars w = .ok s

theorem Loads.unique {w : Workspace} {o : Options} {other : Project} {documents : Registry}
    {sidebars : Sidebars} (hloads : Loads w o p registry s)
    (hother : Loads w o other documents sidebars) :
    p = other ∧ registry = documents ∧ s = sidebars := by
  have hp : p = other := Except.ok.inj (hloads.project.symm.trans hother.project)
  subst hp
  exact ⟨rfl, Except.ok.inj (hloads.documents.symm.trans hother.documents),
    Except.ok.inj (hloads.sidebars.symm.trans hother.sidebars)⟩

/-- What is shown before anything is checked. -/
def headerLines (p : Project) (registry : Registry) (s : Sidebars) : List String :=
  ["Checking " ++ p.site.title] ++ (p.profile.map fun profile => "Profile: " ++ profile).toList ++
    ["Source directory: " ++ p.config.docs.sourceDir.text,
      "Found " ++ toString registry.size ++ " documents and " ++ toString s.size ++ " sidebar(s)"]

/-- What is found in the sidebars and in the links. -/
def findingsOf (p : Project) (registry : Registry) (s : Sidebars) : Findings :=
  (Findings.ofUnresolved p.site.brokenLinkPolicy (s.unresolved registry)).append
    (.ofUnresolved p.site.brokenMarkdownLinkPolicy (Link.check registry))

/-- What is shown while the sidebars and the links are checked. -/
def bodyLines (p : Project) (registry : Registry) (s : Sidebars) : List String :=
  (s.names.flatMap fun name =>
    sidebarLines p.site.brokenLinkPolicy name (s.reading registry name)) ++
      (p.site.brokenMarkdownLinkPolicy.warned (Link.check registry)).map warning

/-- The line of a check that does not fail. -/
def verdict (warnings : Nat) : String :=
  if warnings = 0 then "All document references resolved"
  else "Check passed with " ++ toString warnings ++ " warning(s)"

def endingLines (findings : Findings) : List String :=
  if findings.fatal = [] then [verdict findings.warnings] else findings.fatal.map Unresolved.message

def outcome (findings : Findings) : Except CommandError Unit :=
  if findings.fatal = [] then .ok () else .error (.unresolved findings.fatal.length)

theorem gives_ending (findings : Findings) :
    Gives
      (if findings.fatal.isEmpty then
        if findings.warnings = 0 then say "All document references resolved"
        else say ("Check passed with " ++ toString findings.warnings ++ " warning(s)")
      else do
        tell (findings.fatal.map Unresolved.message)
        throw (.unresolved findings.fatal.length))
      (outcome findings) (endingLines findings) := by
  by_cases hnil : findings.fatal = []
  · have hverdict : endingLines findings = [verdict findings.warnings] := if_pos hnil
    rw [if_pos (List.isEmpty_iff.mpr hnil), outcome, if_pos hnil, hverdict, verdict]
    split
    · exact gives_say _
    · exact gives_say _
  · have hlines : endingLines findings = findings.fatal.map Unresolved.message := if_neg hnil
    rw [if_neg (by simpa using hnil), outcome, if_neg hnil]
    apply Gives.congr
    · apply (gives_tell _).bind
      exact gives_throw _
    · rw [List.append_nil, hlines]

/-- A profile is named if there is one. -/
theorem gives_profile {α : Type} {next : Unit → Session α} {result : Except CommandError α}
    {more : List String} (profile : Option String) (hnext : Gives (next ()) result more) :
    Gives
      (match profile with
        | some profile => do
          let r ← say ("Profile: " ++ profile)
          next r
        | _ => next ())
      result ((profile.map fun profile => "Profile: " ++ profile).toList ++ more) := by
  cases profile with
  | none => exact hnext
  | some profile => exact (gives_say _).bind hnext

variable {w : Workspace} {o : Options}

/-- The whole of a check, where everything can be loaded and read. -/
theorem gives_check (hloads : Loads w o p registry s) (hwell : s.WellFormed registry) :
    Gives (check w o) (outcome (findingsOf p registry s))
      (headerLines p registry s ++ bodyLines p registry s ++
        endingLines (findingsOf p registry s)) := by
  have hsidebars := gives_checkSidebars (p := p) hwell
  rw [hwell.flatMap_reading] at hsidebars
  unfold check
  apply Gives.congr
  · apply (gives_lift_of_eq hloads.project).bind
    apply (gives_say _).bind
    dsimp only
    apply gives_profile
    apply (gives_say _).bind
    apply (gives_lift_of_eq hloads.documents).bind
    apply (gives_lift_of_eq hloads.sidebars).bind
    apply (gives_say _).bind
    apply hsidebars.bind
    apply gives_checkLinks.bind
    exact gives_ending (findingsOf p registry s)
  · simp [headerLines, bodyLines]

/-- The last line of a run: the verdict, or what made it fail. -/
def lastLine (findings : Findings) : String :=
  if findings.fatal = [] then verdict findings.warnings
  else "Error: " ++ (CommandError.unresolved findings.fatal.length).message

theorem run_check (hloads : Loads w o p registry s) (hwell : s.WellFormed registry) :
    Run.ofRequest w (.run .check o) =
      { status := if (findingsOf p registry s).fatal = [] then 0 else 1
        messages := headerLines p registry s ++ bodyLines p registry s ++
          (findingsOf p registry s).fatal.map Unresolved.message ++
            [lastLine (findingsOf p registry s)] } := by
  have hcheck := gives_check hloads hwell
  by_cases hnil : (findingsOf p registry s).fatal = []
  · rw [outcome, if_pos hnil, endingLines, if_pos hnil] at hcheck
    rw [if_pos hnil, lastLine, if_pos hnil, hnil, List.map_nil, List.append_nil]
    exact Run.ofSession_of_gives hcheck
  · rw [outcome, if_neg hnil, endingLines, if_neg hnil] at hcheck
    rw [if_neg hnil, lastLine, if_neg hnil]
    exact Run.ofSession_of_gives_error hcheck

/-! ### Telling the lines apart -/

/-- The line is a warning. -/
def isWarning (line : String) : Bool :=
  Text.beginsWith line "Warning: "

/-- The line is an unresolved reference that is no warning. -/
def isReference (line : String) : Bool :=
  Text.beginsWith line "Unknown document '" || Text.beginsWith line "Broken link to '"

/-- The line is neither, as it begins with another letter. -/
def IsOther (line : String) : Prop :=
  line.toList.head? ≠ some 'W' ∧ line.toList.head? ≠ some 'U' ∧ line.toList.head? ≠ some 'B'

theorem head?_of_beginsWith {line lead : String} {c : Char} (hlead : lead.toList.head? = some c)
    (hbegins : Text.beginsWith line lead = true) : line.toList.head? = some c := by
  obtain ⟨rest, hrest⟩ := Text.beginsWith_iff.mp hbegins
  rw [hrest, List.head?_append, hlead, Option.some_or]

theorem IsOther.isWarning_eq {line : String} (hline : IsOther line) : isWarning line = false := by
  rw [← Bool.not_eq_true]
  intro hwarning
  exact hline.1 (head?_of_beginsWith rfl hwarning)

theorem IsOther.isReference_eq {line : String} (hline : IsOther line) :
    isReference line = false := by
  rw [← Bool.not_eq_true, isReference, Bool.or_eq_true]
  rintro (hunknown | hbroken)
  · exact hline.2.1 (head?_of_beginsWith rfl hunknown)
  · exact hline.2.2 (head?_of_beginsWith rfl hbroken)

theorem isWarning_warning (u : Unresolved) : isWarning (warning u) = true :=
  Text.beginsWith_iff.mpr ⟨u.message.toList, String.toList_append⟩

theorem isReference_warning (u : Unresolved) : isReference (warning u) = false := by
  have hhead : (warning u).toList.head? = some 'W' := by simp [warning]
  rw [← Bool.not_eq_true, isReference, Bool.or_eq_true]
  rintro (hunknown | hbroken)
  · have hother := head?_of_beginsWith (c := 'U') rfl hunknown
    rw [hhead] at hother
    exact absurd hother (by decide)
  · have hother := head?_of_beginsWith (c := 'B') rfl hbroken
    rw [hhead] at hother
    exact absurd hother (by decide)

theorem isReference_message (u : Unresolved) : isReference u.message = true := by
  obtain ⟨id, origin⟩ := u
  rw [isReference, Bool.or_eq_true]
  cases origin with
  | sidebar trail =>
      left
      rw [Text.beginsWith_iff]
      simp [Unresolved.message]
  | link source =>
      right
      rw [Text.beginsWith_iff]
      simp [Unresolved.message]

theorem isWarning_message (u : Unresolved) : isWarning u.message = false := by
  rw [← Bool.not_eq_true]
  intro hwarning
  have hhead := head?_of_beginsWith (c := 'W') rfl hwarning
  obtain ⟨id, origin⟩ := u
  cases origin <;> simp [Unresolved.message] at hhead

theorem isOther_headerLines : ∀ line ∈ headerLines p registry s, IsOther line := by
  intro line hline
  simp only [headerLines, List.mem_append, Option.mem_toList, Option.map_eq_some_iff, List.mem_cons,
    List.not_mem_nil, or_false] at hline
  rcases hline with (rfl | ⟨profile, -, rfl⟩) | rfl | rfl <;> simp [IsOther]

theorem isOther_sidebarLine (name : String) (count : Nat) : IsOther (sidebarLine name count) := by
  simp [IsOther, sidebarLine]

theorem isOther_lastLine (findings : Findings) : IsOther (lastLine findings) := by
  unfold lastLine verdict
  split
  · split <;> simp [IsOther]
  · simp [IsOther]

theorem filter_isWarning_warnings (unresolved : List Unresolved) :
    (unresolved.map warning).filter isWarning = unresolved.map warning := by
  rw [List.filter_eq_self, List.forall_mem_map]
  exact fun u _ => isWarning_warning u

theorem filter_isReference_warnings (unresolved : List Unresolved) :
    (unresolved.map warning).filter isReference = [] := by
  rw [List.filter_eq_nil_iff, List.forall_mem_map]
  intro u _
  simp [isReference_warning]

theorem filter_isWarning_others {lines : List String} (hlines : ∀ line ∈ lines, IsOther line) :
    lines.filter isWarning = [] := by
  rw [List.filter_eq_nil_iff]
  intro line hline
  simp [(hlines line hline).isWarning_eq]

theorem filter_isReference_others {lines : List String} (hlines : ∀ line ∈ lines, IsOther line) :
    lines.filter isReference = [] := by
  rw [List.filter_eq_nil_iff]
  intro line hline
  simp [(hlines line hline).isReference_eq]

theorem filter_isWarning_references (unresolved : List Unresolved) :
    (unresolved.map Unresolved.message).filter isWarning = [] := by
  rw [List.filter_eq_nil_iff, List.forall_mem_map]
  intro u _
  simp [isWarning_message]

theorem filter_isReference_references (unresolved : List Unresolved) :
    (unresolved.map Unresolved.message).filter isReference =
      unresolved.map Unresolved.message := by
  rw [List.filter_eq_self, List.forall_mem_map]
  exact fun u _ => isReference_message u

theorem sidebarLines_eq (policy : Policy) (name : String) (parsed : ParsedSpec) :
    ∃ others, (∀ line ∈ others, IsOther line) ∧
      sidebarLines policy name parsed =
        (policy.warned parsed.unresolved).map warning ++ others := by
  refine ⟨_, ?_, rfl⟩
  intro line hline
  split at hline
  · rw [List.mem_singleton.mp hline]
    exact isOther_sidebarLine _ _
  · cases hline

theorem filter_isWarning_bodyLines (hwell : s.WellFormed registry) :
    (bodyLines p registry s).filter isWarning =
      (p.site.brokenLinkPolicy.warned (s.unresolved registry) ++
        p.site.brokenMarkdownLinkPolicy.warned (Link.check registry)).map warning := by
  have hsidebar (name : String) (parsed : ParsedSpec) :
      (sidebarLines p.site.brokenLinkPolicy name parsed).filter isWarning =
        (p.site.brokenLinkPolicy.warned parsed.unresolved).map warning := by
    obtain ⟨others, hothers, hlines⟩ := sidebarLines_eq p.site.brokenLinkPolicy name parsed
    rw [hlines, List.filter_append, filter_isWarning_warnings, filter_isWarning_others hothers,
      List.append_nil]
  rw [bodyLines, List.filter_append, List.filter_flatMap, filter_isWarning_warnings,
    List.map_append, ← hwell.flatMap_reading, Policy.warned_flatMap, List.map_flatMap]
  simp only [hsidebar]

theorem filter_isReference_bodyLines : (bodyLines p registry s).filter isReference = [] := by
  rw [bodyLines, List.filter_append, filter_isReference_warnings, List.append_nil,
    List.filter_eq_nil_iff]
  intro line hline
  obtain ⟨name, -, hname⟩ := List.mem_flatMap.mp hline
  obtain ⟨others, hothers, hlines⟩ :=
    sidebarLines_eq p.site.brokenLinkPolicy name (s.reading registry name)
  rw [hlines, List.mem_append, List.mem_map] at hname
  rcases hname with ⟨u, -, rfl⟩ | hother
  · simp [isReference_warning]
  · simp [(hothers line hother).isReference_eq]

/-- **A check reports every unresolved reference once.** If everything can be loaded and all
sidebars can be read, the warnings are the references in the sidebars and then those in links, as
far as the policy of each asks for warnings; and the same holds of the fatal ones. The check fails
exactly if there are any of these, and its last line tells their number. Otherwise the last line
tells the number of warnings. -/
theorem check_reports_everything (hloads : Loads w o p registry s)
    (hwell : s.WellFormed registry) :
    let run := Run.ofRequest w (.run .check o)
    let warned := p.site.brokenLinkPolicy.warned (s.unresolved registry) ++
      p.site.brokenMarkdownLinkPolicy.warned (Link.check registry)
    let fatal := p.site.brokenLinkPolicy.fatal (s.unresolved registry) ++
      p.site.brokenMarkdownLinkPolicy.fatal (Link.check registry)
    run.messages.filter isWarning = warned.map warning ∧
      run.messages.filter isReference = fatal.map Unresolved.message ∧
      (run.status = 1 ↔ fatal ≠ []) ∧
      (fatal ≠ [] →
        run.messages.getLast? =
          some ("Error: " ++ (toString fatal.length ++ " unresolved document reference(s)"))) ∧
      (fatal = [] →
        run.status = 0 ∧
          run.messages.getLast? =
            some (if warned = [] then "All document references resolved"
              else "Check passed with " ++ toString warned.length ++ " warning(s)")) := by
  intro run warned fatal
  have hfatal : (findingsOf p registry s).fatal = fatal := rfl
  have hwarnings : (findingsOf p registry s).warnings = warned.length := List.length_append.symm
  have hrun : run = _ := run_check hloads hwell
  have hmessages : run.messages = headerLines p registry s ++ bodyLines p registry s ++
      fatal.map Unresolved.message ++ [lastLine (findingsOf p registry s)] := by
    rw [hrun, hfatal]
  have hheader := @isOther_headerLines p registry s
  have hlast : ∀ line ∈ [lastLine (findingsOf p registry s)], IsOther line := by
    intro line hline
    rw [List.mem_singleton.mp hline]
    exact isOther_lastLine _
  have hgetLast : run.messages.getLast? = some (lastLine (findingsOf p registry s)) := by
    rw [hmessages, List.getLast?_concat]
  refine ⟨?_, ?_, ?_, fun hne => ?_, fun hnil => ⟨?_, ?_⟩⟩
  · rw [hmessages, List.filter_append, List.filter_append, List.filter_append,
      filter_isWarning_others hheader, filter_isWarning_bodyLines hwell,
      filter_isWarning_references, filter_isWarning_others hlast, List.append_nil,
      List.append_nil, List.nil_append]
  · rw [hmessages, List.filter_append, List.filter_append, List.filter_append,
      filter_isReference_others hheader, filter_isReference_bodyLines,
      filter_isReference_references, filter_isReference_others hlast, List.append_nil,
      List.nil_append, List.nil_append]
  · rw [hrun, hfatal]
    by_cases hnil : fatal = [] <;> simp [hnil]
  · rw [hgetLast, lastLine, if_neg (hfatal ▸ hne), hfatal]
    rfl
  · rw [hrun, hfatal, if_pos hnil]
  · rw [hgetLast, lastLine, if_pos (hfatal.trans hnil), verdict, hwarnings]
    simp only [List.length_eq_zero_iff]

/-- One document with a broken link, and two sidebars that name a document which is missing. -/
def broken : Workspace where
  root := .directory
    [("docs", .directory [("a.md", .file (Text.encodeUtf8 "# A\n[x](gone.md)"))]),
      ("docnav.toml", .file (Text.encodeUtf8
        "[site]\ntitle = \"T\"\nurl = \"https://x\"\nbase_url = \"/\"\n")),
      ("s.json", .file (Text.encodeUtf8 "\x7b\"m\":[\"a\",\"x\"],\"n\":\"x\"\x7d"))]
  cwd := []
  env := []

/-- Options with which unresolved references in sidebars are fatal. Broken links are warned of. -/
def throwing : Options := { sidebars := some ⟨"s.json"⟩, onBrokenLinks := some .throw }

theorem ok_of_toOption {ε α : Type} {action : Except ε α} {a : α}
    (haction : action.toOption = some a) : action = .ok a := by
  cases action with
  | error e => cases haction
  | ok b => exact congrArg Except.ok (Option.some.inj haction)

/-- What is loaded can be looked at in one go. -/
theorem exists_loads {α : Type} {look : Project → Registry → Sidebars → α} {value : α}
    (hvalue : ((Project.load w o).toOption.bind fun p =>
      (p.registry w).toOption.bind fun registry =>
        (p.sidebars w).toOption.map fun s => look p registry s) = some value) :
    ∃ p registry s, Loads w o p registry s ∧ look p registry s = value := by
  obtain ⟨p, hp, hrest⟩ := Option.bind_eq_some_iff.mp hvalue
  obtain ⟨registry, hregistry, hlast⟩ := Option.bind_eq_some_iff.mp hrest
  obtain ⟨s, hs, hlook⟩ := Option.map_eq_some_iff.mp hlast
  exact ⟨p, registry, s, ⟨ok_of_toOption hp, ok_of_toOption hregistry, ok_of_toOption hs⟩, hlook⟩

/-- Both sidebars and the link are reported, each in its own way. -/
theorem check_reports_everything_sample :
    ∃ p registry s, Loads broken throwing p registry s ∧ s.WellFormed registry ∧
      (Run.ofRequest broken (.run .check throwing)).messages.filter isWarning =
        ["Warning: Broken link to 'gone' in document 'a'"] ∧
      (Run.ofRequest broken (.run .check throwing)).messages.filter isReference =
        ["Unknown document 'x' referenced in m", "Unknown document 'x' referenced in n"] ∧
      (Run.ofRequest broken (.run .check throwing)).status = 1 := by
  obtain ⟨p, registry, s, hloads, hfacts⟩ : ∃ p registry s, Loads broken throwing p registry s ∧
      (decide (s.WellFormed registry),
        p.site.brokenLinkPolicy, p.site.brokenMarkdownLinkPolicy, s.unresolved registry,
        Link.check registry) =
        (true, .throw, .warn, [⟨"x", .sidebar ["m"]⟩, ⟨"x", .sidebar ["n"]⟩],
          [⟨"gone", .link "a"⟩]) := by
    apply exists_loads
    decide +kernel
  simp only [Prod.mk.injEq, decide_eq_true_eq] at hfacts
  obtain ⟨hwell, hpolicy, hlinks, hunresolved, hcheck⟩ := hfacts
  obtain ⟨hwarnings, hreferences, hstatus, -⟩ := check_reports_everything hloads hwell
  rw [hpolicy, hlinks, hunresolved, hcheck] at hwarnings hreferences hstatus
  exact ⟨p, registry, s, hloads, hwell, hwarnings, hreferences, hstatus.mpr (by decide)⟩

end Commands

end Signpost
