import Signpost.Proofs.PolicyRuns

/-!
# Named sidebars

A sidebar behaves as its bare spec does. Only its name stands in front of everything that is
reported: of the place of an error, of the trail of an unresolved reference, and of the trail of an
empty category. The other sidebars of a document have no part in it.
-/

namespace Signpost

/-- The place below a name. -/
def SpecLocation.under (name : String) (l : SpecLocation) : SpecLocation :=
  { l with root := name ++ l.root }

def SpecError.under (name : String) : SpecError → SpecError
  | .invalid location fault => .invalid (location.under name) fault
  | .duplicateReference id location => .duplicateReference id (location.under name)

def Origin.under (name : String) : Origin → Origin
  | .sidebar trail => .sidebar (name :: trail)
  | .link source => .link source

def Unresolved.under (name : String) (u : Unresolved) : Unresolved :=
  { u with origin := u.origin.under name }

/-- What a spec says below a name. Its items are the same. -/
def ParsedSpec.under (name : String) (p : ParsedSpec) : ParsedSpec :=
  { items := p.items
    unresolved := p.unresolved.map (Unresolved.under name)
    emptyCategories := p.emptyCategories.map (fun trail => name ++ " > " ++ trail) }

def NavError.under (name : String) : NavError → NavError
  | .spec cause => .spec (cause.under name)
  | .fatal cause => .fatal ⟨cause.unresolved.map (Unresolved.under name)⟩
  | .unknownSidebar other available => .unknownSidebar other available
  | .unreadable path cause => .unreadable path cause
  | .unparsable path => .unparsable path

/-- A place as it is shown below a name, from how it is shown without the name. The word for the
whole of a spec stands for an empty text. -/
def SpecLocation.shownUnder (name shown : String) : String :=
  let path := name ++ (if shown = "(root)" then "" else shown)
  if path = "" then "(root)" else path

theorem ParsedSpec.under_append (name : String) (p q : ParsedSpec) :
    (p ++ q).under name = p.under name ++ q.under name := by
  change (ParsedSpec.append p q).under name = ParsedSpec.append (p.under name) (q.under name)
  simp only [under, append, List.map_append]

theorem trailText_cons (name : String) {trail : List String} (htrail : trail ≠ []) :
    trailText (name :: trail) = name ++ " > " ++ trailText trail := by
  cases trail with
  | nil => exact absurd rfl htrail
  | cons first rest => rfl

namespace SpecLocation

theorem path_under (name : String) (l : SpecLocation) : (l.under name).path = name ++ l.path :=
  String.append_assoc

/-- The path to a step begins with a bracket or a point, and so is not the word for the root. -/
theorem path_ne_root {l : SpecLocation} (hroot : l.root = "") : l.path ≠ "(root)" := by
  obtain ⟨root, steps⟩ := l
  intro hpath
  have hchars := congrArg String.toList hpath
  rw [path, show root = "" from hroot, String.empty_append] at hchars
  cases steps with
  | nil => simp at hchars
  | cons step steps =>
      rw [List.map_cons, String.join_cons] at hchars
      cases step <;> simp [SpecStep.text] at hchars

theorem text_under (name : String) {l : SpecLocation} (hroot : l.root = "") :
    (l.under name).text = shownUnder name l.text := by
  have hne := path_ne_root hroot
  rw [text, path_under, shownUnder, text]
  by_cases hempty : l.path = ""
  · rw [if_pos hempty, if_pos rfl, hempty]
  · rw [if_neg hempty, if_neg hne]

end SpecLocation

namespace Outline

variable {known : DocumentId → Bool}

/-- A reading below a name. -/
def readUnder (name : String) : Except SpecError ParsedSpec → Except SpecError ParsedSpec
  | .ok parsed => .ok (parsed.under name)
  | .error cause => .error (cause.under name)

/-- To read the node below a name is to read it, and to put the name in front. -/
def ReadsUnder (known : DocumentId → Bool) (name : String) (node : Outline) : Prop :=
  ∀ (trail : List String) (location : SpecLocation) (seen : List DocumentId),
    read known (name :: trail) (location.under name) seen node =
      readUnder name (read known trail location seen node)

theorem readAll_under {name : String} {nodes : List Outline}
    (hnodes : ∀ node ∈ nodes, ReadsUnder known name node) (trail : List String)
    (place : Nat → SpecLocation) (index : Nat) (seen : List DocumentId) :
    readAll known (name :: trail) (fun i => (place i).under name) index seen nodes =
      readUnder name (readAll known trail place index seen nodes) := by
  induction nodes generalizing index seen with
  | nil => rfl
  | cons node nodes ih =>
      have hnode := hnodes node List.mem_cons_self trail (place index) seen
      have hrest : ∀ other ∈ nodes, ReadsUnder known name other :=
        fun other hother => hnodes other (List.mem_cons_of_mem node hother)
      rw [readAll, readAll, hnode]
      cases read known trail (place index) seen node with
      | error cause => rfl
      | ok first =>
          -- the name changes no item, so that the same documents have been seen
          have htail := ih hrest (index + 1) (seen ++ Item.idsOf first.items)
          simp only [readUnder]
          rw [show (first.under name).items = first.items from rfl, htail]
          cases readAll known trail place (index + 1) (seen ++ Item.idsOf first.items) nodes with
          | error cause => rfl
          | ok rest => simp only [readUnder, ParsedSpec.under_append]

theorem readsUnder (known : DocumentId → Bool) (name : String) (node : Outline) :
    ReadsUnder known name node := by
  induction node using nodeInduction with
  | reference id label =>
      intro trail location seen
      unfold read
      split
      · split <;> rfl
      · rfl
  | group label collapsed entries ih =>
      intro trail location seen
      have hentries := readAll_under ih (trail ++ [label]) (fun i => location.below (.item i)) 0 seen
      have hplace : (fun i => (location.under name).below (.item i)) =
          fun i => (location.below (.item i)).under name := rfl
      rw [read, read, List.cons_append, hplace, hentries]
      cases readAll known (trail ++ [label]) (fun i => location.below (.item i)) 0 seen entries with
      | error cause => rfl
      | ok inner =>
          have htext := trailText_cons name (List.append_ne_nil_of_right_ne_nil trail
            (List.cons_ne_nil label []))
          cases entries with
          | nil => simp [readUnder, ParsedSpec.under, htext]
          | cons entry entries => simp [readUnder, ParsedSpec.under]
  | malformed fault =>
      intro trail location seen
      rfl

/-- Every error in reading the node is placed below the root that the reading began with. -/
def KeepsRoot (known : DocumentId → Bool) (node : Outline) : Prop :=
  ∀ (trail : List String) (location : SpecLocation) (seen : List DocumentId) (cause : SpecError),
    read known trail location seen node = .error cause → cause.location.root = location.root

theorem root_of_readAll_eq_error {nodes : List Outline}
    (hnodes : ∀ node ∈ nodes, KeepsRoot known node) {trail : List String}
    {place : Nat → SpecLocation} {root : String} (hplace : ∀ i, (place i).root = root)
    {index : Nat} {seen : List DocumentId} {cause : SpecError}
    (herror : readAll known trail place index seen nodes = .error cause) :
    cause.location.root = root := by
  induction nodes generalizing index seen with
  | nil => simp [readAll] at herror
  | cons node nodes ih =>
      have hrest : ∀ other ∈ nodes, KeepsRoot known other :=
        fun other hother => hnodes other (List.mem_cons_of_mem node hother)
      rw [readAll] at herror
      cases hread : read known trail (place index) seen node with
      | error first =>
          rw [hread] at herror
          obtain rfl : first = cause := by simpa using herror
          rw [hnodes node List.mem_cons_self trail (place index) seen first hread, hplace]
      | ok first =>
          rw [hread] at herror
          cases htail : readAll known trail place (index + 1) (seen ++ Item.idsOf first.items)
              nodes with
          | error later =>
              obtain rfl : later = cause := by simpa [htail] using herror
              exact ih hrest htail
          | ok rest => simp [htail] at herror

theorem keepsRoot (known : DocumentId → Bool) (node : Outline) : KeepsRoot known node := by
  induction node using nodeInduction with
  | reference id label =>
      intro trail location seen cause herror
      unfold read at herror
      split at herror
      · split at herror
        · obtain rfl : SpecError.duplicateReference id location = cause := by simpa using herror
          rfl
        · simp at herror
      · simp at herror
  | group label collapsed entries ih =>
      intro trail location seen cause herror
      rw [read] at herror
      cases hentries : readAll known (trail ++ [label]) (fun i => location.below (.item i)) 0 seen
          entries with
      | error inner =>
          rw [hentries] at herror
          obtain rfl : inner = cause := by simpa using herror
          have hplace (i : Nat) : (location.below (.item i)).root = location.root := rfl
          exact root_of_readAll_eq_error ih hplace hentries
      | ok inner => simp [hentries] at herror
  | malformed fault =>
      intro trail location seen cause herror
      obtain rfl : SpecError.invalid location fault = cause := by simpa [read] using herror
      rfl

end Outline

namespace Spec

theorem root_of_parse_eq_error {spec : Json} {registry : Registry} {cause : SpecError}
    (hparse : parse spec registry = .error cause) : cause.location.root = "" := by
  unfold parse parseAt at hparse
  cases spec with
  | arr values =>
      have hplace (i : Nat) : ((⟨"", []⟩ : SpecLocation).below (.entry i)).root = "" := rfl
      exact Outline.root_of_readAll_eq_error (fun node _ => Outline.keepsRoot _ node) hplace hparse
  | str id => exact Outline.keepsRoot _ _ _ _ _ _ hparse
  | obj fields => exact Outline.keepsRoot _ _ _ _ _ _ hparse
  | null | bool _ | num _ =>
      obtain rfl := Except.error.inj hparse
      rfl

/-- A named spec is read as the bare one, with its name in front. -/
theorem parseNamed_eq_readUnder (name : String) (spec : Json) (registry : Registry) :
    parseNamed name spec registry = Outline.readUnder name (parse spec registry) := by
  have htop : (⟨name, []⟩ : SpecLocation) = SpecLocation.under name ⟨"", []⟩ := by
    rw [SpecLocation.under, String.append_empty]
  unfold parseNamed parse parseAt
  rw [htop]
  cases spec with
  | arr values =>
      exact Outline.readAll_under (fun node _ => Outline.readsUnder _ name node) []
        (fun i => (⟨"", []⟩ : SpecLocation).below (.entry i)) 0 []
  | str id => exact Outline.readsUnder _ name _ [] _ []
  | obj fields => exact Outline.readsUnder _ name _ [] _ []
  | null | bool _ | num _ => rfl

end Spec

namespace Navigation

/-- The outcome of a reading below a name: the same navigation, or an error of the same kind. -/
def outcomeUnder (name : String) : Except NavError Navigation → Except NavError Navigation
  | .ok nav => .ok nav
  | .error cause => .error (cause.under name)

/-- What a policy adds to the reports, it adds below a name as well. -/
theorem ofParsed_under (name : String) (parsed : ParsedSpec) (policy : Policy)
    (reports : List Unresolved) :
    ∃ added, (ofParsed parsed policy reports).reports = reports ++ added ∧
      ofParsed (parsed.under name) policy reports =
        ⟨outcomeUnder name (ofParsed parsed policy reports).result,
          reports ++ added.map (Unresolved.under name)⟩ := by
  cases policy with
  | ignore =>
      rw [ofParsed_ignore, ofParsed_ignore]
      exact ⟨[], by simp, by simp [outcomeUnder, ParsedSpec.under]⟩
  | warn =>
      rw [ofParsed_warn, ofParsed_warn]
      exact ⟨parsed.unresolved, rfl, rfl⟩
  | throw =>
      by_cases hnil : parsed.unresolved = []
      · have hnil' : (parsed.under name).unresolved = [] := by simp [ParsedSpec.under, hnil]
        rw [ofParsed_of_unresolved_eq_nil hnil, ofParsed_of_unresolved_eq_nil hnil']
        exact ⟨[], by simp, by simp [outcomeUnder, ParsedSpec.under]⟩
      · have hne : (parsed.under name).unresolved ≠ [] := by simpa [ParsedSpec.under] using hnil
        rw [ofParsed_throw hnil, ofParsed_throw hne]
        exact ⟨[], by simp, by simp [outcomeUnder, NavError.under, ParsedSpec.under]⟩

end Navigation

namespace Sidebars

variable {s : Sidebars} {name : String} {spec : Json} {registry : Registry}

theorem parse_of_get?_eq_some (hget : s.get? name = some spec) :
    s.parse name registry = (Spec.parseNamed name spec registry).mapError .spec := by
  rw [parse, hget]

/-- **A named sidebar is its bare spec below its name.** Both can be read or neither can, and both
give the same items and the same navigation. Unresolved references, empty categories and errors only
differ by the name in front of them. What other sidebars there are makes no difference. -/
theorem named_eq_bare_under (hget : s.get? name = some spec) (registry : Registry) :
    (∀ parsed, Spec.parse spec registry = .ok parsed →
      s.parse name registry = .ok (parsed.under name)) ∧
    (∀ cause, Spec.parse spec registry = .error cause →
      s.parse name registry = .error (.spec (cause.under name)) ∧
        (cause.under name).location.text =
          SpecLocation.shownUnder name cause.location.text) ∧
    (∀ policy reports, ∃ added,
      (Navigation.build spec registry policy reports).reports = reports ++ added ∧
        (s.resolve name registry policy reports).reports =
          reports ++ added.map (Unresolved.under name) ∧
        (s.resolve name registry policy reports).result =
          Navigation.outcomeUnder name (Navigation.build spec registry policy reports).result) ∧
    (∀ others : Sidebars, others.get? name = some spec →
      others.parse name registry = s.parse name registry ∧
        ∀ policy reports,
          others.resolve name registry policy reports = s.resolve name registry policy reports) := by
  have hnamed : s.parse name registry =
      (Outline.readUnder name (Spec.parse spec registry)).mapError .spec := by
    rw [parse_of_get?_eq_some hget, Spec.parseNamed_eq_readUnder]
  refine ⟨?_, ?_, ?_, ?_⟩
  · intro parsed hparse
    rw [hnamed, hparse]
    rfl
  · intro cause hparse
    refine ⟨by rw [hnamed, hparse]; rfl, ?_⟩
    have htext := SpecLocation.text_under name (Spec.root_of_parse_eq_error hparse)
    cases cause <;> exact htext
  · intro policy reports
    rw [resolve, hnamed]
    cases hparse : Spec.parse spec registry with
    | error cause =>
        have hread : (Outline.readUnder name (.error cause)).mapError NavError.spec =
            .error (.spec (cause.under name)) := rfl
        rw [Navigation.build_of_parse_eq_error hparse, hread]
        exact ⟨[], by simp, by simp, by simp [Navigation.outcomeUnder, NavError.under]⟩
    | ok parsed =>
        have hread : (Outline.readUnder name (.ok parsed)).mapError NavError.spec =
            .ok (parsed.under name) := rfl
        rw [Navigation.build_of_parse_eq_ok hparse, hread]
        obtain ⟨added, hadded, hunder⟩ := Navigation.ofParsed_under name parsed policy reports
        refine ⟨added, hadded, ?_⟩
        simp only [hunder, and_self]
  · intro others hothers
    have hsame : others.parse name registry = s.parse name registry := by
      rw [parse_of_get?_eq_some hothers, parse_of_get?_eq_some hget]
    refine ⟨hsame, ?_⟩
    intro policy reports
    rw [resolve, resolve, hsame]

theorem named_eq_bare_under_sample :
    let s : Sidebars := ⟨Index.ofList [("docs", Spec.sampleSpec), ("", .arr [.null])]⟩
    let alone : Sidebars := ⟨Index.ofList [("docs", Spec.sampleSpec)]⟩
    s.get? "docs" = some Spec.sampleSpec ∧ s.get? "" = some (.arr [.null]) ∧
      s.parse "docs" Spec.sampleRegistry = .ok
        { items := Spec.sampleParsed.items
          unresolved :=
            [⟨"ghost", .sidebar ["docs"]⟩, ⟨"ghost", .sidebar ["docs", "Guides", "Gone"]⟩,
              ⟨"ghost", .sidebar ["docs", "Guides"]⟩]
          emptyCategories := ["docs > Guides > Later"] } ∧
      s.parse "" Spec.sampleRegistry =
        .error (.spec (.invalid ⟨"", [.entry 0]⟩ (.notANode "null"))) ∧
      alone.resolve "docs" Spec.sampleRegistry .throw [] =
        s.resolve "docs" Spec.sampleRegistry .throw [] := by
  intro s alone
  have hdocs : s.get? "docs" = some Spec.sampleSpec := rfl
  have hempty : s.get? "" = some (.arr [.null]) := rfl
  have hparse : Spec.parse Spec.sampleSpec Spec.sampleRegistry = .ok Spec.sampleParsed := rfl
  have hfault : Spec.parse (.arr [.null]) Spec.sampleRegistry =
      .error (.invalid ⟨"", [.entry 0]⟩ (.notANode "null")) := rfl
  obtain ⟨hnamed, -, -, hothers⟩ := named_eq_bare_under hdocs Spec.sampleRegistry
  obtain ⟨-, hnamed', -, -⟩ := named_eq_bare_under hempty Spec.sampleRegistry
  exact ⟨hdocs, hempty, (hnamed _ hparse).trans rfl, (hnamed' _ hfault).1,
    (hothers alone rfl).2 .throw []⟩

end Sidebars

end Signpost
