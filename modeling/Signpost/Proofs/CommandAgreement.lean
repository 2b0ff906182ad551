import Signpost.Proofs.CheckTranscript
import Signpost.Proofs.PrintedNavigation

/-!
# Checking and navigating agree

A project is loaded alike for a check and for a navigation. The navigation of a sidebar is then one
of the steps of the check: it fails where that step finds something fatal, and nowhere else. It can
fail at several stages, but it writes only after the last of them. What it has written then is the
whole text of the navigation, unless its output refuses a part of it.
-/

namespace Signpost

namespace Project

/-- The project with a sidebar asked for. -/
def choosing (p : Project) (name : String) : Project :=
  { p with config := { p.config with docs := { p.config.docs with sidebar := some name } } }

/-- The options with a sidebar asked for, and with a form of the output. -/
def askingFor (o : Options) (name : String) (compact : Bool) : Options :=
  { o with sidebar := some name, compact := compact }

/-- Asking for a sidebar changes nothing else in a project, and nothing about whether it can be
loaded. -/
theorem load_askingFor (w : Workspace) (o : Options) (name : String) (compact : Bool) :
    load w (askingFor o name compact) = (load w o).map (·.choosing name) := by
  unfold load Config.load askingFor
  cases Config.loadFile w o.config with
  | error cause => rfl
  | ok config =>
      have hsite (profile : Option String) :
          (config.override (overridesOf (askingFor o name compact))).effective profile =
            (config.override (overridesOf o)).effective profile := rfl
      unfold askingFor at hsite
      simp only [bind, Except.bind, pure, Except.pure, Except.mapError, hsite]
      cases (config.override (overridesOf o)).effective
        (o.profile.or (w.environment? profileVariable)) <;> rfl

end Project

namespace Commands

open Session Project

variable {w : Workspace} {o : Options} {p : Project} {registry : Registry} {s : Sidebars}
  {name : String} {compact : Bool} {parsed : ParsedSpec} {nav : Navigation}
  {cause : CommandError}

/-! ### The stages of a navigation -/

/-- A navigation fails for this reason, at one of its stages. -/
inductive NavFails (w : Workspace) (o : Options) : CommandError → Prop where
  | project {cause : CommandError} : Project.load w o = .error cause → NavFails w o cause
  | documents {p : Project} {cause : CommandError} :
      Project.load w o = .ok p → p.registry w = .error cause → NavFails w o cause
  | sidebars {p : Project} {registry : Registry} {cause : CommandError} :
      Project.load w o = .ok p → p.registry w = .ok registry → p.sidebars w = .error cause →
        NavFails w o cause
  | choice {p : Project} {registry : Registry} {s : Sidebars} {cause : CommandError} :
      Loads w o p registry s → p.chooseSidebar s = .error cause → NavFails w o cause
  | resolution {p : Project} {registry : Registry} {s : Sidebars} {name : String}
      {cause : NavError} :
      Loads w o p registry s → p.chooseSidebar s = .ok name →
        (s.resolve name registry p.site.brokenLinkPolicy []).result = .error cause →
          NavFails w o (.nav cause)

theorem resolve_of_parse (policy : Policy) (hparse : s.parse name registry = .ok parsed) :
    s.resolve name registry policy [] =
      ⟨if policy.fatal parsed.unresolved = [] then .ok (Navigation.ofItems parsed.items)
        else .error (.fatal ⟨policy.fatal parsed.unresolved⟩),
        policy.warned parsed.unresolved⟩ := by
  rw [Sidebars.resolve, hparse]
  exact policy.ofParsed_nil_eq parsed

/-- What fails to be resolved leaves no warning behind. -/
theorem reports_eq_nil {policy : Policy} {cause : NavError}
    (hfails : (s.resolve name registry policy []).result = .error cause) :
    (s.resolve name registry policy []).reports = [] := by
  cases hparse : s.parse name registry with
  | error fault => rw [Sidebars.resolve, hparse]
  | ok parsed =>
      rw [resolve_of_parse policy hparse] at hfails ⊢
      by_cases hnil : policy.fatal parsed.unresolved = []
      · simp [hnil] at hfails
      · exact policy.warned_eq_nil parsed.unresolved hnil

/-- Where a sidebar is chosen, its resolution decides. -/
theorem gives_nav (hloads : Loads w o p registry s) (hname : p.chooseSidebar s = .ok name) :
    Gives (Commands.nav w o)
      (((s.resolve name registry p.site.brokenLinkPolicy []).result.map (navJson p name)).mapError
        .nav)
      ((s.resolve name registry p.site.brokenLinkPolicy []).reports.map warning) := by
  unfold Commands.nav
  apply Gives.congr
  · apply (gives_lift_of_eq hloads.project).bind
    apply (gives_lift_of_eq hloads.documents).bind
    apply (gives_lift_of_eq hloads.sidebars).bind
    apply (gives_lift_of_eq hname).bind
    apply (gives_warn _).bind
    cases (s.resolve name registry p.site.brokenLinkPolicy []).result with
    | ok nav => exact gives_pure _
    | error cause => exact gives_throw _
  · simp

theorem gives_nav_of_fails (hfails : NavFails w o cause) :
    Gives (Commands.nav w o) (.error cause) [] := by
  cases hfails with
  | project hp =>
      unfold Commands.nav
      exact (gives_lift_of_eq_error hp).bind_error
  | documents hp hregistry =>
      unfold Commands.nav
      apply (gives_lift_of_eq hp).bind
      exact (gives_lift_of_eq_error hregistry).bind_error
  | sidebars hp hregistry hs =>
      unfold Commands.nav
      apply (gives_lift_of_eq hp).bind
      apply (gives_lift_of_eq hregistry).bind
      exact (gives_lift_of_eq_error hs).bind_error
  | choice hloads hname =>
      unfold Commands.nav
      apply (gives_lift_of_eq hloads.project).bind
      apply (gives_lift_of_eq hloads.documents).bind
      apply (gives_lift_of_eq hloads.sidebars).bind
      exact (gives_lift_of_eq_error hname).bind_error
  | resolution hloads hname hresult =>
      have hnav := gives_nav hloads hname
      rw [hresult, reports_eq_nil hresult] at hnav
      exact hnav

/-- A navigation that passes all stages writes its text, as far as the outlet takes it. -/
theorem runTo_nav_of_resolve (outlet : Outlet) (hloads : Loads w o p registry s)
    (hname : p.chooseSidebar s = .ok name)
    (hnav : (s.resolve name registry p.site.brokenLinkPolicy []).result = .ok nav) :
    Run.ofRequestTo outlet w (.run .nav o) =
      { status := if outlet.refusal? (written o (navJson p name nav)) = none then 0 else 1
        output := outlet.taken (written o (navJson p name nav))
        messages := (s.resolve name registry p.site.brokenLinkPolicy []).reports.map warning ++
          ((outlet.refusal? (written o (navJson p name nav))).map ("Error: " ++ ·)).toList } := by
  have hgives := gives_nav hloads hname
  rw [hnav] at hgives
  exact Run.ofSession_bind_writeJson hgives outlet o

theorem run_nav_of_resolve (hloads : Loads w o p registry s)
    (hname : p.chooseSidebar s = .ok name)
    (hnav : (s.resolve name registry p.site.brokenLinkPolicy []).result = .ok nav) :
    Run.ofRequest w (.run .nav o) =
      { status := 0
        output := written o (navJson p name nav)
        messages := (s.resolve name registry p.site.brokenLinkPolicy []).reports.map warning } := by
  rw [Run.ofRequest, runTo_nav_of_resolve .unbounded hloads hname hnav]
  simp [Outlet.refusal?, Outlet.taken]

/-- A navigation that fails at a stage has not come to its output. -/
theorem runTo_nav_of_fails (outlet : Outlet) (hfails : NavFails w o cause) :
    Run.ofRequestTo outlet w (.run .nav o) =
      { status := 1, output := "", messages := ["Error: " ++ cause.message] } :=
  Run.ofSession_of_gives_error (gives_nav_of_fails hfails).bind_error

theorem run_nav_of_fails (hfails : NavFails w o cause) :
    Run.ofRequest w (.run .nav o) =
      { status := 1, output := "", messages := ["Error: " ++ cause.message] } :=
  runTo_nav_of_fails .unbounded hfails

/-- There is no other outcome: a navigation fails at a stage, or passes all of them. -/
theorem navFails_or_resolves (w : Workspace) (o : Options) :
    (∃ cause, NavFails w o cause) ∨
      ∃ p registry s name nav, Loads w o p registry s ∧ p.chooseSidebar s = .ok name ∧
        (s.resolve name registry p.site.brokenLinkPolicy []).result = .ok nav := by
  cases hp : Project.load w o with
  | error cause => exact .inl ⟨cause, .project hp⟩
  | ok p =>
      cases hregistry : p.registry w with
      | error cause => exact .inl ⟨cause, .documents hp hregistry⟩
      | ok registry =>
          cases hs : p.sidebars w with
          | error cause => exact .inl ⟨cause, .sidebars hp hregistry hs⟩
          | ok s =>
              have hloads : Loads w o p registry s := ⟨hp, hregistry, hs⟩
              cases hname : p.chooseSidebar s with
              | error cause => exact .inl ⟨cause, .choice hloads hname⟩
              | ok name =>
                  cases hresult : (s.resolve name registry p.site.brokenLinkPolicy []).result with
                  | error cause => exact .inl ⟨.nav cause, .resolution hloads hname hresult⟩
                  | ok nav => exact .inr ⟨p, registry, s, name, nav, hloads, hname, hresult⟩

/-- Only references that are unresolved make a navigation fail as such. -/
theorem NavFails.resolve_of_fatal {fatal : Fatal} (hfails : NavFails w o (.nav (.fatal fatal))) :
    ∃ p registry s name, Loads w o p registry s ∧ p.chooseSidebar s = .ok name ∧
      (s.resolve name registry p.site.brokenLinkPolicy []).result = .error (.fatal fatal) := by
  generalize hcause : CommandError.nav (.fatal fatal) = cause at hfails
  cases hfails with
  | project hp =>
      subst hcause
      unfold Project.load at hp
      cases hconfig : Config.load w o.config (overridesOf o) with
      | error fault => simp [hconfig, bind, Except.bind, Except.mapError] at hp
      | ok config =>
          cases hsite : config.effective (o.profile.or (w.environment? profileVariable)) <;>
            simp [hconfig, hsite, bind, Except.bind, Except.mapError, pure, Except.pure] at hp
  | @documents p _ _ hregistry =>
      subst hcause
      unfold Project.registry at hregistry
      cases hsource : Registry.ofSource (Discovery.documents w p.config.docs.sourceDir) <;>
        simp [hsource, Except.mapError] at hregistry
  | @sidebars p _ _ _ _ hs =>
      subst hcause
      unfold Project.sidebars Sidebars.load at hs
      split at hs
      · simp [Except.mapError] at hs
      · split at hs <;> simp [Except.mapError] at hs
  | choice _ hname =>
      subst hcause
      unfold chooseSidebar at hname
      split at hname
      · cases hname
      · cases hname
      · split at hname <;> cases hname
  | resolution hloads hname hresult =>
      cases hcause
      exact ⟨_, _, _, _, hloads, hname, hresult⟩

/-! ### The stages of a check -/

theorem parse_ne_fatal {fatal : Fatal} : s.parse name registry ≠ .error (.fatal fatal) := by
  unfold Sidebars.parse
  split
  · simp
  · cases Spec.parseNamed name _ registry <;> simp [Except.mapError]

theorem fails_checkSidebar {fault : NavError} (hparse : s.parse name registry = .error fault) :
    Fails (checkSidebar p registry s name) := by
  have hresolve : s.resolve name registry p.site.brokenLinkPolicy [] = ⟨.error fault, []⟩ := by
    rw [Sidebars.resolve, hparse]
  unfold checkSidebar
  rw [hresolve]
  apply (gives_warn _).bind_fails
  cases fault with
  | fatal fatal => exact absurd hparse parse_ne_fatal
  | spec | unknownSidebar | unreadable | unparsable => exact ⟨_, [], gives_throw _⟩

theorem fails_checkSidebars {names : List String}
    (hbad : ∃ name ∈ names, ∃ fault, s.parse name registry = .error fault) :
    Fails (checkSidebars p registry s names) := by
  induction names with
  | nil =>
      obtain ⟨name, hname, -⟩ := hbad
      cases hname
  | cons first names ih =>
      rw [checkSidebars]
      cases hparse : s.parse first registry with
      | error fault => exact (fails_checkSidebar hparse).bind
      | ok parsed =>
          apply (gives_checkSidebar hparse).bind_fails
          apply Fails.bind
          apply ih
          obtain ⟨name, hname, fault, hfault⟩ := hbad
          rcases List.mem_cons.mp hname with rfl | hrest
          · rw [hparse] at hfault
            cases hfault
          · exact ⟨name, hrest, fault, hfault⟩

theorem fails_profile {α : Type} {next : Unit → Session α} (profile : Option String)
    (hnext : Fails (next ())) :
    Fails
      (match profile with
        | some profile => do
          let r ← say ("Profile: " ++ profile)
          next r
        | _ => next ()) := by
  obtain ⟨cause, more, hgives⟩ := hnext
  exact ⟨cause, _, gives_profile profile hgives⟩

/-- A check fails, or everything is loaded and all sidebars can be read. -/
theorem check_fails_or_loads (w : Workspace) (o : Options) :
    Fails (check w o) ∨ ∃ p registry s, Loads w o p registry s ∧ s.WellFormed registry := by
  by_cases hall : ∃ p registry s, Loads w o p registry s ∧ s.WellFormed registry
  · exact .inr hall
  · left
    unfold check
    cases hp : Project.load w o with
    | error cause => exact (fails_lift_of_eq rfl).bind
    | ok p =>
        apply (gives_lift_of_eq rfl).bind_fails
        apply (gives_say _).bind_fails
        dsimp only
        apply fails_profile
        apply (gives_say _).bind_fails
        cases hregistry : p.registry w with
        | error cause => exact (fails_lift_of_eq rfl).bind
        | ok registry =>
            apply (gives_lift_of_eq rfl).bind_fails
            cases hs : p.sidebars w with
            | error cause => exact (fails_lift_of_eq rfl).bind
            | ok s =>
                apply (gives_lift_of_eq rfl).bind_fails
                apply (gives_say _).bind_fails
                apply Fails.bind
                apply fails_checkSidebars
                by_contra hnone
                refine hall ⟨p, registry, s, ⟨hp, hregistry, hs⟩, fun name hname => ?_⟩
                cases hparse : s.parse name registry with
                | ok parsed => exact ⟨parsed, rfl⟩
                | error fault => exact absurd ⟨name, hname, fault, hparse⟩ hnone

/-- A check that does not fail has found nothing fatal. -/
theorem loads_of_status_check (hstatus : (Run.ofRequest w (.run .check o)).status = 0) :
    ∃ p registry s, Loads w o p registry s ∧ s.WellFormed registry ∧
      (findingsOf p registry s).fatal = [] := by
  rcases check_fails_or_loads w o with hfails | ⟨p, registry, s, hloads, hwell⟩
  · have hone : (Run.ofRequest w (.run .check o)).status = 1 := Run.status_of_fails hfails
    rw [hone] at hstatus
    cases hstatus
  · refine ⟨p, registry, s, hloads, hwell, ?_⟩
    by_contra hne
    rw [run_check hloads hwell, if_neg hne] at hstatus
    cases hstatus

/-! ### What is stated for a sidebar -/

/-- A line tells for which sidebar it stands and what it states. Any character can occur in the
name, but after the last `:` there is only the number. -/
theorem sidebarLine_inj {first second : String} {count other : Nat}
    (heq : sidebarLine first count = sidebarLine second other) :
    first = second ∧ count = other := by
  have hcut (name : String) (count : Nat) :
      Text.cutLast ':' (sidebarLine name count) =
        some ("Sidebar '" ++ name ++ "'", " " ++ toString count ++ " documents") := by
    have hcolon : ':' ∉ Nat.toDigits 10 count := by
      intro hmem
      exact absurd (Nat.isDigit_of_mem_toDigits (by decide) (by decide) hmem) (by decide)
    rw [Text.cutLast_eq_some_iff]
    constructor
    · simp [sidebarLine, ← String.toList_inj, String.toList_append]
    · simpa [String.toList_append] using hcolon
  have hparts := hcut first count
  rw [heq, hcut second other, Option.some_inj, Prod.mk.injEq] at hparts
  obtain ⟨hnames, hcounts⟩ := hparts
  rw [String.append_left_inj, String.append_right_inj] at hnames hcounts
  exact ⟨hnames.symm, (Text.toString_nat_inj hcounts).symm⟩

/-- Other lines of a check differ from it in one of the first two characters. -/
theorem sidebarLine_notMem_headerLines (count : Nat) :
    sidebarLine name count ∉ headerLines p registry s := by
  have hlead : (sidebarLine name count).toList.take 2 = ['S', 'i'] := by simp [sidebarLine]
  intro hmem
  simp only [headerLines, List.mem_append, Option.mem_toList, Option.map_eq_some_iff, List.mem_cons,
    List.not_mem_nil, or_false] at hmem
  rcases hmem with (heq | ⟨profile, -, heq⟩) | heq | heq
  · simp [heq] at hlead
  · simp [← heq] at hlead
  · simp [heq] at hlead
  · simp [heq] at hlead

theorem sidebarLine_ne_warning (count : Nat) (u : Unresolved) :
    warning u ≠ sidebarLine name count := by
  intro heq
  have hlead := congrArg (fun line : String => line.toList.head?) heq
  simp [warning, sidebarLine] at hlead

theorem sidebarLine_ne_verdict (count warnings : Nat) :
    sidebarLine name count ≠ verdict warnings := by
  intro heq
  have hlead := congrArg (fun line : String => line.toList.head?) heq
  unfold verdict at hlead
  split at hlead <;> simp [sidebarLine] at hlead

theorem mem_sidebarLines_iff {policy : Policy} {other : String} {count : Nat} :
    sidebarLine name count ∈ sidebarLines policy other parsed ↔
      policy.fatal parsed.unresolved = [] ∧ name = other ∧
        count = (Navigation.ofItems parsed.items).length := by
  rw [sidebarLines, List.mem_append, List.mem_map]
  constructor
  · rintro (⟨u, -, heq⟩ | hline)
    · exact absurd heq (sidebarLine_ne_warning count u)
    · split at hline
      next hnil => exact ⟨hnil, sidebarLine_inj (List.mem_singleton.mp hline)⟩
      next => cases hline
  · rintro ⟨hnil, rfl, rfl⟩
    right
    rw [if_pos hnil]
    exact List.mem_singleton.mpr rfl

/-- A check that does not fail states one number of documents for each sidebar. -/
theorem stated_iff (hloads : Loads w o p registry s) (hwell : s.WellFormed registry)
    (hnil : (findingsOf p registry s).fatal = []) (hname : name ∈ s.names)
    (hparse : s.parse name registry = .ok parsed)
    (hpolicy : p.site.brokenLinkPolicy.fatal parsed.unresolved = []) (count : Nat) :
    sidebarLine name count ∈ (Run.ofRequest w (.run .check o)).messages ↔
      count = (Navigation.ofItems parsed.items).length := by
  rw [run_check hloads hwell, hnil, List.map_nil, List.append_nil, lastLine, if_pos hnil,
    List.mem_append, List.mem_append, bodyLines, List.mem_append, List.mem_singleton,
    List.mem_flatMap, List.mem_map]
  constructor
  · rintro ((hheader | ⟨other, -, hline⟩ | ⟨u, -, heq⟩) | hverdict)
    · exact absurd hheader (sidebarLine_notMem_headerLines count)
    · obtain ⟨-, rfl, hcount⟩ := mem_sidebarLines_iff.mp hline
      rwa [Sidebars.reading_eq hparse] at hcount
    · exact absurd heq (sidebarLine_ne_warning count u)
    · exact absurd hverdict (sidebarLine_ne_verdict count _)
  · intro hcount
    left; right; left
    refine ⟨name, hname, mem_sidebarLines_iff.mpr ?_⟩
    rw [Sidebars.reading_eq hparse]
    exact ⟨hpolicy, rfl, hcount⟩

/-! ### Both commands on one project -/

theorem Loads.askingFor (hloads : Loads w o p registry s) (name : String) (compact : Bool) :
    Loads w (askingFor o name compact) (p.choosing name) registry s := by
  refine ⟨?_, hloads.documents, hloads.sidebars⟩
  rw [load_askingFor, hloads.project]
  rfl

/-- Whatever a navigation has loaded, a check loads as well. -/
theorem Loads.of_askingFor {asked : Project}
    (hloads : Loads w (Project.askingFor o name compact) asked registry s) :
    ∃ p, asked = p.choosing name ∧ Loads w o p registry s := by
  have hproject := hloads.project
  rw [load_askingFor] at hproject
  cases hp : Project.load w o with
  | error cause =>
      rw [hp] at hproject
      cases hproject
  | ok p =>
      rw [hp] at hproject
      cases hproject
      exact ⟨p, rfl, hp, hloads.documents, hloads.sidebars⟩

/-- What is fatal in one sidebar is fatal in the check. -/
theorem mem_findingsOf_fatal (hwell : s.WellFormed registry) (hname : name ∈ s.names)
    (hparse : s.parse name registry = .ok parsed) {u : Unresolved}
    (hu : u ∈ p.site.brokenLinkPolicy.fatal parsed.unresolved) :
    u ∈ (findingsOf p registry s).fatal := by
  rw [← Sidebars.reading_eq hparse] at hu
  apply List.mem_append_left
  rw [← hwell.flatMap_reading]
  exact Policy.mem_fatal_flatMap hname hu

theorem fatal_eq_nil_of_findingsOf (hwell : s.WellFormed registry) (hname : name ∈ s.names)
    (hparse : s.parse name registry = .ok parsed) (hnil : (findingsOf p registry s).fatal = []) :
    p.site.brokenLinkPolicy.fatal parsed.unresolved = [] := by
  rw [List.eq_nil_iff_forall_not_mem]
  intro u hu
  have hmem := mem_findingsOf_fatal hwell hname hparse hu
  rw [hnil] at hmem
  cases hmem

/-- After a check that does not fail, each sidebar has a navigation. -/
theorem resolve_of_findingsOf (hwell : s.WellFormed registry) (hname : name ∈ s.names)
    (hnil : (findingsOf p registry s).fatal = []) :
    ∃ parsed, s.parse name registry = .ok parsed ∧
      p.site.brokenLinkPolicy.fatal parsed.unresolved = [] ∧
      (s.resolve name registry p.site.brokenLinkPolicy []).result =
        .ok (Navigation.ofItems parsed.items) := by
  obtain ⟨parsed, hparse⟩ := hwell name hname
  have hpolicy := fatal_eq_nil_of_findingsOf hwell hname hparse hnil
  refine ⟨parsed, hparse, hpolicy, ?_⟩
  rw [resolve_of_parse _ hparse, hpolicy, if_pos rfl]

/-- The exit status of a navigation tells whether it fails at one of its stages. -/
theorem run_nav_status (w : Workspace) (o : Options) :
    (Run.ofRequest w (.run .nav o)).status = 1 ↔ ∃ cause, NavFails w o cause := by
  constructor
  · intro hstatus
    rcases navFails_or_resolves w o with hfails | ⟨p, registry, s, name, nav, hloads, hname, hnav⟩
    · exact hfails
    · rw [run_nav_of_resolve hloads hname hnav] at hstatus
      cases hstatus
  · rintro ⟨cause, hfails⟩
    rw [run_nav_of_fails hfails]

theorem run_check_status (w : Workspace) (o : Options) :
    (Run.ofRequest w (.run .check o)).status = 0 ∨
      (Run.ofRequest w (.run .check o)).status = 1 := by
  rcases check_fails_or_loads w o with hfails | ⟨p, registry, s, hloads, hwell⟩
  · right
    exact Run.status_of_fails hfails
  · rw [run_check hloads hwell]
    by_cases hnil : (findingsOf p registry s).fatal = []
    · left
      exact if_pos hnil
    · right
      exact if_neg hnil

/-- After a check that does not fail, each sidebar has a navigation. It is what is read back from
the output, and it has as many documents as the check has stated. -/
theorem agree_of_status_check (hstatus : (Run.ofRequest w (.run .check o)).status = 0) :
    ∃ p registry s, Loads w o p registry s ∧ ∀ name ∈ s.names, ∀ compact,
      let shown := Run.ofRequest w (.run .nav (askingFor o name compact))
      ∃ nav, (s.resolve name registry p.site.brokenLinkPolicy []).result = .ok nav ∧
        shown.status = 0 ∧
        shown.output = written (askingFor o name compact) (navJson p name nav) ∧
        (∀ depth, shown.output.length ≤ depth →
          Json.parseWithin? depth shown.output = some (navJson p name nav)) ∧
        printedOrder? shown.output = some nav.order ∧
        ∀ count, sidebarLine name count ∈ (Run.ofRequest w (.run .check o)).messages ↔
          count = nav.order.length := by
  obtain ⟨p, registry, s, hloads, hwell, hnil⟩ := loads_of_status_check hstatus
  refine ⟨p, registry, s, hloads, fun name hname compact => ?_⟩
  obtain ⟨parsed, hparse, hpolicy, hresult⟩ := resolve_of_findingsOf hwell hname hnil
  have hshown := run_nav_of_resolve (hloads.askingFor name compact) rfl hresult
  refine ⟨_, hresult, ?_, ?_, ?_, ?_, stated_iff hloads hwell hnil hname hparse hpolicy⟩
  · rw [hshown]
  · rw [hshown]
    rfl
  · rw [hshown]
    exact fun depth hdepth => parseWithin?_written _ (isPlain_navJson _ name _) hdepth
  · rw [hshown]
    exact printedOrder?_written _ _ name _

/-- However much is taken of its output, a navigation fails because a stage does, with nothing
written, or because a part of its text is refused. -/
theorem causes_of_status_nav (outlet : Outlet)
    (hstatus : (Run.ofRequestTo outlet w (.run .nav o)).status = 1) :
    (∃ cause, NavFails w o cause ∧
      Run.ofRequestTo outlet w (.run .nav o) =
        { status := 1, output := "", messages := ["Error: " ++ cause.message] }) ∨
    ∃ p registry s name nav refusal, Loads w o p registry s ∧ p.chooseSidebar s = .ok name ∧
      (s.resolve name registry p.site.brokenLinkPolicy []).result = .ok nav ∧
      outlet.refusal? (written o (navJson p name nav)) = some refusal ∧
      (Run.ofRequestTo outlet w (.run .nav o)).output =
        outlet.taken (written o (navJson p name nav)) := by
  rcases navFails_or_resolves w o with ⟨cause, hfails⟩ |
    ⟨p, registry, s, name, nav, hloads, hname, hnav⟩
  · exact .inl ⟨cause, hfails, runTo_nav_of_fails outlet hfails⟩
  · have hrun := runTo_nav_of_resolve outlet hloads hname hnav
    cases hrefusal : outlet.refusal? (written o (navJson p name nav)) with
    | none =>
        rw [hrun, hrefusal] at hstatus
        cases hstatus
    | some refusal =>
        exact .inr ⟨p, registry, s, name, nav, refusal, hloads, hname, hnav, hrefusal, by rw [hrun]⟩

/-- It does not matter to a check where its output goes. -/
theorem runTo_check (outlet : Outlet) (w : Workspace) (o : Options) :
    Run.ofRequestTo outlet w (.run .check o) = Run.ofRequest w (.run .check o) := rfl

theorem output_check (w : Workspace) (o : Options) :
    (Run.ofRequest w (.run .check o)).output = "" := by
  rcases check_fails_or_loads w o with ⟨cause, lines, hgives⟩ | ⟨p, registry, s, hloads, hwell⟩
  · have hrun : Run.ofRequest w (.run .check o) = _ := Run.ofSession_of_gives_error hgives
    rw [hrun]
  · rw [run_check hloads hwell]

/-- A check fails if a navigation of one of the sidebars does. -/
theorem status_check_of_status_nav (hproject : Project.load w o = .ok p)
    (hsidebars : p.sidebars w = .ok s) (hname : name ∈ s.names)
    (hstatus : (Run.ofRequest w (.run .nav (askingFor o name compact))).status = 1) :
    (Run.ofRequest w (.run .check o)).status = 1 := by
  rcases run_check_status w o with hzero | hone
  · obtain ⟨p', registry, s', hloads, hagree⟩ := agree_of_status_check hzero
    obtain rfl : p = p' := Except.ok.inj (hproject.symm.trans hloads.project)
    obtain rfl : s = s' := Except.ok.inj (hsidebars.symm.trans hloads.sidebars)
    obtain ⟨nav, -, hshown, -⟩ := hagree name hname compact
    rw [hstatus] at hshown
    cases hshown
  · exact hone

/-- References that make a navigation fail are all that are unresolved in its sidebar. -/
theorem unresolved_of_navFails {fatal : Fatal}
    (hfails : NavFails w (askingFor o name compact) (.nav (.fatal fatal))) :
    ∃ p registry s parsed, Loads w o p registry s ∧ s.parse name registry = .ok parsed ∧
      fatal.unresolved = parsed.unresolved ∧
      p.site.brokenLinkPolicy.fatal parsed.unresolved = parsed.unresolved := by
  obtain ⟨asked, registry, s, chosen, hasked, hchosen, hresult⟩ := hfails.resolve_of_fatal
  obtain ⟨p, rfl, hloads⟩ := hasked.of_askingFor
  obtain rfl : name = chosen := Except.ok.inj hchosen
  have hsite : (p.choosing name).site = p.site := rfl
  cases hparse : s.parse name registry with
  | error fault =>
      rw [Sidebars.resolve, hparse] at hresult
      rw [Except.error.inj hresult] at hparse
      exact absurd hparse parse_ne_fatal
  | ok parsed =>
      rw [resolve_of_parse _ hparse, hsite] at hresult
      by_cases hnil : p.site.brokenLinkPolicy.fatal parsed.unresolved = []
      · simp [hnil] at hresult
      · have hall := p.site.brokenLinkPolicy.fatal_eq_self parsed.unresolved hnil
        simp only [hnil, if_false, Except.error.injEq, NavError.fatal.injEq] at hresult
        refine ⟨p, registry, s, parsed, hloads, hparse, ?_, hall⟩
        rw [← hresult, hall]

/-- **Checking and navigating agree.** If a check does not fail, the navigation of each sidebar does
not fail either. Its output is read back as the navigation, and this has as many documents as the
check states for the sidebar. If the navigation of one of the sidebars fails, a check fails. If that
is for unresolved references, these are all that are unresolved in the sidebar, and a check that can
read all sidebars shows each of them. A navigation that fails at any of its stages has written
nothing, wherever its output goes; and it fails at one of them, unless its output refuses a part of
the text. A check never writes. -/
theorem commands_agree (w : Workspace) (o : Options) :
    let checked := Run.ofRequest w (.run .check o)
    let shown (name : String) (compact : Bool) :=
      Run.ofRequest w (.run .nav (askingFor o name compact))
    (checked.status = 0 →
      ∃ p registry s, Loads w o p registry s ∧ ∀ name ∈ s.names, ∀ compact,
        ∃ nav, (s.resolve name registry p.site.brokenLinkPolicy []).result = .ok nav ∧
          (shown name compact).status = 0 ∧
          (shown name compact).output = written (askingFor o name compact) (navJson p name nav) ∧
          (∀ depth, (shown name compact).output.length ≤ depth →
            Json.parseWithin? depth (shown name compact).output = some (navJson p name nav)) ∧
          printedOrder? (shown name compact).output = some nav.order ∧
          ∀ count, sidebarLine name count ∈ checked.messages ↔ count = nav.order.length) ∧
    (∀ p s, Project.load w o = .ok p → p.sidebars w = .ok s → ∀ name ∈ s.names, ∀ compact,
      (shown name compact).status = 1 → checked.status = 1) ∧
    (∀ name compact fatal, NavFails w (askingFor o name compact) (.nav (.fatal fatal)) →
      (shown name compact).status = 1 ∧
        ∃ p registry s, Loads w o p registry s ∧ name ∈ s.names ∧
          fatal.unresolved = (s.reading registry name).unresolved ∧
          (s.WellFormed registry →
            ∀ u ∈ fatal.unresolved, u.message ∈ checked.messages.filter isReference)) ∧
    (∀ asked, (Run.ofRequest w (.run .nav asked)).status = 1 →
      ∃ cause, NavFails w asked cause ∧
        Run.ofRequest w (.run .nav asked) =
          { status := 1, output := "", messages := ["Error: " ++ cause.message] }) ∧
    (∀ outlet asked, (Run.ofRequestTo outlet w (.run .nav asked)).status = 1 →
      (∃ cause, NavFails w asked cause ∧
        Run.ofRequestTo outlet w (.run .nav asked) =
          { status := 1, output := "", messages := ["Error: " ++ cause.message] }) ∨
      ∃ p registry s name nav refusal, Loads w asked p registry s ∧
        p.chooseSidebar s = .ok name ∧
        (s.resolve name registry p.site.brokenLinkPolicy []).result = .ok nav ∧
        outlet.refusal? (written asked (navJson p name nav)) = some refusal ∧
        (Run.ofRequestTo outlet w (.run .nav asked)).output =
          outlet.taken (written asked (navJson p name nav))) ∧
    ∀ outlet, Run.ofRequestTo outlet w (.run .check o) = checked ∧ checked.output = "" := by
  intro checked shown
  refine ⟨agree_of_status_check, ?_, ?_, ?_, fun outlet asked => causes_of_status_nav outlet,
    fun outlet => ⟨runTo_check outlet w o, output_check w o⟩⟩
  · intro p s hproject hsidebars name hname compact
    exact status_check_of_status_nav hproject hsidebars hname
  · intro name compact fatal hfails
    obtain ⟨p, registry, s, parsed, hloads, hparse, hunresolved, hall⟩ :=
      unresolved_of_navFails hfails
    have hname := Sidebars.mem_names_of_parse hparse
    refine ⟨(run_nav_status w _).mpr ⟨_, hfails⟩, p, registry, s, hloads, hname, ?_, ?_⟩
    · rw [hunresolved, Sidebars.reading_eq hparse]
    · intro hwell u hu
      rw [hunresolved, ← hall] at hu
      have hmem := mem_findingsOf_fatal hwell hname hparse hu
      have hchecked : checked = _ := run_check hloads hwell
      rw [List.mem_filter, hchecked, List.mem_append, List.mem_append]
      exact ⟨.inl (.inr (List.mem_map_of_mem hmem)), isReference_message u⟩
  · intro asked hstatus
    obtain ⟨cause, hfails⟩ := (run_nav_status w asked).mp hstatus
    exact ⟨cause, hfails, run_nav_of_fails hfails⟩

/-- Options with which unresolved references in sidebars are warned of. -/
def lenient : Options := { sidebars := some ⟨"s.json"⟩, onBrokenLinks := some .warn }

/-- The text of the navigation of the one sidebar. -/
def lenientText : String :=
  "\x7b\"site\":" ++
    ("\x7b\"title\":\"T\",\"url\":\"https://x\",\"baseUrl\":\"/\"," ++
      "\"brokenLinkPolicy\":\"warn\",\"brokenMarkdownLinkPolicy\":\"warn\"\x7d," ++
      "\"sidebar\":\"m\",\"navigation\":\x7b\"items\":[\x7b\"type\":\"doc\",\"id\":\"a\"\x7d]," ++
      "\"order\":[\"a\"],\"links\":\x7b\"a\":\x7b\x7d\x7d\x7d\x7d" ++ "\n")

theorem bounded_lenientText :
    (Outlet.bounded 8 "full").taken lenientText = "\x7b\"site\":" ∧
      (Outlet.bounded 8 "full").refusal? lenientText ≠ none := by
  have hfront : "\x7b\"site\":".toList.length = 8 := rfl
  have hline : "\n".length = 1 := rfl
  constructor
  · rw [Outlet.taken, lenientText, String.toList_append, List.take_left' hfront,
      String.ofList_toList]
  · rw [Outlet.refusal?, lenientText, String.length_append, ← String.length_toList, hfront,
      String.length_append, hline, if_neg (by omega)]
    exact Option.some_ne_none "full"

/-- With the one options a check passes and both sidebars have a navigation; with the others a
navigation fails and so does the check. Without options the sidebars are not found. An output with
room for eight characters takes them and makes the navigation fail. -/
theorem commands_agree_sample :
    (Run.ofRequest broken (.run .check lenient)).status = 0 ∧
      (∃ p nav, (Run.ofRequest broken (.run .nav (askingFor lenient "m" true))).output =
          written (askingFor lenient "m" true) (navJson p "m" nav) ∧
        nav.order = ["a"] ∧
        printedOrder? lenientText = some ["a"] ∧
        sidebarLine "m" 1 ∈ (Run.ofRequest broken (.run .check lenient)).messages) ∧
      (Run.ofRequest broken (.run .nav (askingFor lenient "m" true))).output = lenientText ∧
      (Run.ofRequestTo (.bounded 8 "full") broken
          (.run .nav (askingFor lenient "m" true))).status = 1 ∧
      (Run.ofRequestTo (.bounded 8 "full") broken
          (.run .nav (askingFor lenient "m" true))).output = "\x7b\"site\":" ∧
      NavFails broken (askingFor throwing "m" false) (.nav (.fatal ⟨[⟨"x", .sidebar ["m"]⟩]⟩)) ∧
      (Run.ofRequest broken (.run .check throwing)).status = 1 ∧
      "Unknown document 'x' referenced in m" ∈
        (Run.ofRequest broken (.run .check throwing)).messages.filter isReference ∧
      (Run.ofRequest broken (.run .nav {})).status = 1 ∧
      (Run.ofRequest broken (.run .nav {})).output = "" := by
  have hchecked : (Run.ofRequest broken (.run .check lenient)).status = 0 := by decide +kernel
  have hstray : (Run.ofRequest broken (.run .nav {})).status = 1 := by decide +kernel
  have hshown : (Run.ofRequest broken (.run .nav (askingFor throwing "m" false))).status = 1 := by
    decide +kernel
  have htext : (Run.ofRequest broken (.run .nav (askingFor lenient "m" true))).output =
      lenientText := by
    decide +kernel
  obtain ⟨p, registry, s, hloads, hfacts⟩ : ∃ p registry s, Loads broken lenient p registry s ∧
      (s.names, (s.resolve "m" registry p.site.brokenLinkPolicy []).result.toOption.map
        (·.order)) = (["m", "n"], some ["a"]) := by
    apply exists_loads
    decide +kernel
  rw [Prod.mk.injEq, Option.map_eq_some_iff] at hfacts
  obtain ⟨hnames, nav, hnav, horder⟩ := hfacts
  obtain ⟨hagree, -⟩ := commands_agree broken lenient
  obtain ⟨_, _, _, hother, hall⟩ := hagree hchecked
  obtain ⟨rfl, rfl, rfl⟩ := hloads.unique hother
  obtain ⟨other, hresult, -, houtput, -, hprinted, hstated⟩ := hall "m" (by simp [hnames]) true
  obtain rfl : nav = other := Except.ok.inj ((ok_of_toOption hnav).symm.trans hresult)
  rw [htext, horder] at hprinted
  have hrun := runTo_nav_of_resolve (.bounded 8 "full") (hloads.askingFor "m" true) rfl hresult
  have hwritten : written (askingFor lenient "m" true) (navJson (p.choosing "m") "m" nav) =
      lenientText := houtput.symm.trans htext
  obtain ⟨htaken, hrefusal⟩ := bounded_lenientText
  rw [hwritten, if_neg hrefusal, htaken] at hrun
  refine ⟨hchecked, ⟨p, nav, houtput, horder, hprinted, ?_⟩, htext, ?_, ?_, ?_⟩
  · exact (hstated 1).mpr (by rw [horder]; rfl)
  · rw [hrun]
  · rw [hrun]
  · obtain ⟨p, registry, s, hloads, hfacts⟩ : ∃ p registry s, Loads broken throwing p registry s ∧
        (decide (s.WellFormed registry), s.names, p.site.brokenLinkPolicy,
          (s.parse "m" registry).toOption.map (·.unresolved)) =
          (true, ["m", "n"], .throw, some [⟨"x", .sidebar ["m"]⟩]) := by
      apply exists_loads
      decide +kernel
    simp only [Prod.mk.injEq, decide_eq_true_eq, Option.map_eq_some_iff] at hfacts
    obtain ⟨hwell, hnames, hpolicy, parsed, hparse, hunresolved⟩ := hfacts
    obtain ⟨-, hfails, hcause, hsilent, -⟩ := commands_agree broken throwing
    have hresolve : (s.resolve "m" registry (p.choosing "m").site.brokenLinkPolicy []).result =
        .error (.fatal ⟨[⟨"x", .sidebar ["m"]⟩]⟩) := by
      have hsite : (p.choosing "m").site = p.site := rfl
      rw [resolve_of_parse _ (ok_of_toOption hparse), hsite, hpolicy, hunresolved]
      rfl
    have hnav := NavFails.resolution (hloads.askingFor "m" false) rfl hresolve
    obtain ⟨-, _, _, _, hother, -, -, hreported⟩ := hcause "m" false _ hnav
    obtain ⟨rfl, rfl, rfl⟩ := hloads.unique hother
    obtain ⟨_, -, hrun⟩ := hsilent {} hstray
    refine ⟨hnav, hfails p s hloads.project hloads.sidebars "m" (by simp [hnames]) false hshown,
      ?_, hstray, by rw [hrun]⟩
    exact hreported hwell _ (List.mem_singleton.mpr rfl)

end Commands

end Signpost
