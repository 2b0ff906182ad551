import Signpost.Proofs.DeclaredTree
import Mathlib.Data.List.Nodup

/-!
# What reading a spec gives

Reading succeeds exactly when no node is malformed and no known document is referred to twice, and
then what it gives is determined by the tree that the spec declares: the tree without the leaves of
unknown documents, these leaves as unresolved references, and the categories without items. The
place of a node only shows in errors. The documents seen so far only decide whether reading fails.
-/

namespace Signpost

/-- What a tree below a trail of labels says when these documents are known. -/
def ParsedSpec.ofTree (known : DocumentId → Bool) (trail : List String) (tree : List Item) :
    ParsedSpec :=
  { items := Item.pruneAll known tree
    unresolved := ((Item.mentionsOf trail tree).filter fun m => !known m.id).map Mention.unresolved
    emptyCategories := (Item.childlessOf trail tree).map trailText }

theorem ParsedSpec.ofTree_append (known : DocumentId → Bool) (trail : List String)
    (front back : List Item) :
    ofTree known trail (front ++ back) = ofTree known trail front ++ ofTree known trail back := by
  change _ = ParsedSpec.append _ _
  simp only [ofTree, ParsedSpec.append, Item.pruneAll_append, Item.mentionsOf_append,
    Item.childlessOf_append, List.filter_append, List.map_append]

theorem ParsedSpec.ofTree_category (known : DocumentId → Bool) (trail : List String)
    (label : String) (collapsed : Bool) (items : List Item) :
    ofTree known trail [.category label collapsed items] =
      { items := [.category label collapsed (ofTree known (trail ++ [label]) items).items]
        unresolved := (ofTree known (trail ++ [label]) items).unresolved
        emptyCategories :=
          if items.isEmpty then [trailText (trail ++ [label])]
          else (ofTree known (trail ++ [label]) items).emptyCategories } := by
  simp only [ofTree, Item.pruneAll, Item.prune, Item.mentionsOf, Item.mentions, Item.childlessOf,
    Item.childless, List.append_nil]
  split <;> rfl

namespace Outline

variable {known : DocumentId → Bool} {trail : List String} {location : SpecLocation}
  {place : Nat → SpecLocation} {index : Nat} {seen : List DocumentId} {parsed : ParsedSpec}

theorem read_reference_eq_ok_iff {id : DocumentId} {label : Option String} :
    read known trail location seen (.reference id label) = .ok parsed ↔
      (known id = true → id ∉ seen) ∧ parsed = .ofTree known trail [.doc id label] := by
  unfold read
  cases hknown : known id with
  | false =>
      simp [ParsedSpec.ofTree, Item.pruneAll, Item.prune, Item.mentionsOf, Item.mentions,
        Item.childlessOf, Item.childless, Mention.unresolved, hknown, eq_comm]
  | true =>
      by_cases hseen : id ∈ seen
      · simp [hseen]
      · simp [ParsedSpec.ofTree, Item.pruneAll, Item.prune, Item.mentionsOf, Item.mentions,
          Item.childlessOf, Item.childless, hknown, hseen, eq_comm]

theorem read_group_eq_ok_iff {label : String} {collapsed : Bool} {entries : List Outline} :
    read known trail location seen (.group label collapsed entries) = .ok parsed ↔
      ∃ inner,
        readAll known (trail ++ [label]) (fun i => location.below (.item i)) 0 seen entries =
          .ok inner ∧
        parsed =
          { items := [.category label collapsed inner.items]
            unresolved := inner.unresolved
            emptyCategories :=
              if entries.isEmpty then [trailText (trail ++ [label])]
              else inner.emptyCategories } := by
  rw [read]
  cases readAll known (trail ++ [label]) (fun i => location.below (.item i)) 0 seen entries with
  | error cause => simp
  | ok inner =>
      simp only [Except.ok.injEq, exists_eq_left']
      exact eq_comm

theorem readAll_cons_eq_ok_iff {node : Outline} {nodes : List Outline} :
    readAll known trail place index seen (node :: nodes) = .ok parsed ↔
      ∃ first, read known trail (place index) seen node = .ok first ∧
        ∃ rest, readAll known trail place (index + 1) (seen ++ Item.idsOf first.items) nodes =
          .ok rest ∧ parsed = first ++ rest := by
  rw [readAll]
  cases read known trail (place index) seen node with
  | error cause => simp
  | ok first =>
      simp only [Except.ok.injEq, exists_eq_left']
      cases readAll known trail place (index + 1) (seen ++ Item.idsOf first.items) nodes with
      | error cause => simp
      | ok rest =>
          simp only [Except.ok.injEq, exists_eq_left']
          exact eq_comm

/-- Reading the node succeeds exactly when nothing in it is malformed and no known document in it was
referred to before, and gives what the tree of the node says. -/
def FollowsTree (known : DocumentId → Bool) (node : Outline) : Prop :=
  ∀ (trail : List String) (location : SpecLocation) (seen : List DocumentId) (parsed : ParsedSpec),
    seen.Nodup →
      (read known trail location seen node = .ok parsed ↔
        node.Sound ∧ (seen ++ (Item.idsOf node.tree).filter known).Nodup ∧
          parsed = .ofTree known trail node.tree)

theorem readAll_eq_ok_iff_of_followsTree {nodes : List Outline}
    (hnodes : ∀ node ∈ nodes, FollowsTree known node) (hseen : seen.Nodup) :
    readAll known trail place index seen nodes = .ok parsed ↔
      AllSound nodes ∧ (seen ++ (Item.idsOf (treeAll nodes)).filter known).Nodup ∧
        parsed = .ofTree known trail (treeAll nodes) := by
  induction nodes generalizing index seen parsed with
  | nil =>
      simp [readAll, AllSound, treeAll, Item.idsOf, hseen, ParsedSpec.ofTree, Item.pruneAll,
        Item.mentionsOf, Item.childlessOf, eq_comm]
  | cons node nodes ih =>
      have hnode : FollowsTree known node := hnodes node List.mem_cons_self
      have hrest : ∀ other ∈ nodes, FollowsTree known other :=
        fun other hother => hnodes other (List.mem_cons_of_mem node hother)
      -- the documents seen after the node are those seen before it and the known ones in it
      have hids : Item.idsOf (ParsedSpec.ofTree known trail node.tree).items =
          (Item.idsOf node.tree).filter known := Item.idsOf_pruneAll known node.tree
      have hsplit : seen ++ (Item.idsOf (treeAll (node :: nodes))).filter known =
          (seen ++ (Item.idsOf node.tree).filter known) ++
            (Item.idsOf (treeAll nodes)).filter known := by
        rw [treeAll, Item.idsOf_append, List.filter_append, List.append_assoc]
      rw [readAll_cons_eq_ok_iff, hsplit, treeAll, ParsedSpec.ofTree_append]
      constructor
      · rintro ⟨first, hfirst, others, hothers, rfl⟩
        obtain ⟨hsound, hnodup, rfl⟩ := (hnode _ _ _ _ hseen).mp hfirst
        rw [hids] at hothers
        obtain ⟨hsounds, hnodups, rfl⟩ := (ih hrest hnodup).mp hothers
        exact ⟨⟨hsound, hsounds⟩, hnodups, rfl⟩
      · rintro ⟨⟨hsound, hsounds⟩, hnodups, rfl⟩
        have hnodup := hnodups.of_append_left
        refine ⟨_, (hnode _ _ _ _ hseen).mpr ⟨hsound, hnodup, rfl⟩, _, ?_, rfl⟩
        rw [hids]
        exact (ih hrest hnodup).mpr ⟨hsounds, hnodups, rfl⟩

theorem followsTree (known : DocumentId → Bool) (node : Outline) : FollowsTree known node := by
  induction node using nodeInduction with
  | reference id label =>
      intro trail location seen parsed hseen
      rw [read_reference_eq_ok_iff]
      cases hknown : known id with
      | false => simp [Sound, tree, Item.idsOf, Item.ids, hknown, hseen]
      | true => simp [Sound, tree, Item.idsOf, Item.ids, hknown, List.nodup_append', hseen]
  | group label collapsed entries ih =>
      -- the documents seen before a group are those seen before its entries
      intro trail location seen parsed hseen
      rw [read_group_eq_ok_iff]
      have hids : Item.idsOf (tree (.group label collapsed entries)) =
          Item.idsOf (treeAll entries) := by simp [tree, Item.idsOf, Item.ids]
      rw [hids, tree, ParsedSpec.ofTree_category]
      constructor
      · rintro ⟨inner, hinner, rfl⟩
        obtain ⟨hsound, hnodup, rfl⟩ := (readAll_eq_ok_iff_of_followsTree ih hseen).mp hinner
        exact ⟨hsound, hnodup, by rw [isEmpty_treeAll hsound]⟩
      · rintro ⟨hsound, hnodup, rfl⟩
        refine ⟨_, (readAll_eq_ok_iff_of_followsTree ih hseen).mpr ⟨hsound, hnodup, rfl⟩, ?_⟩
        rw [isEmpty_treeAll hsound]
  | malformed fault =>
      intro trail location seen parsed hseen
      simp [read, Sound]

theorem readAll_eq_ok_iff {nodes : List Outline} (hseen : seen.Nodup) :
    readAll known trail place index seen nodes = .ok parsed ↔
      AllSound nodes ∧ (seen ++ (Item.idsOf (treeAll nodes)).filter known).Nodup ∧
        parsed = .ofTree known trail (treeAll nodes) :=
  readAll_eq_ok_iff_of_followsTree (fun node _ => followsTree known node) hseen

end Outline

namespace Spec

/-- A whole spec can be read exactly when nothing in it is malformed and no known document is referred
to twice. What it says is then decided by the tree that it declares. -/
theorem parseAt_eq_ok_iff {known : DocumentId → Bool} {root : String} {trail : List String}
    {spec : Json} {parsed : ParsedSpec} :
    parseAt known root trail spec = .ok parsed ↔
      Sound spec ∧ ((Item.idsOf (declared spec)).filter known).Nodup ∧
        parsed = .ofTree known trail (declared spec) := by
  have houtline : parseAt known root trail spec = .ok parsed ↔
      Sound spec ∧
        ((Item.idsOf (Outline.treeAll (Outline.ofJsonList (nodes spec)))).filter known).Nodup ∧
          parsed = .ofTree known trail (Outline.treeAll (Outline.ofJsonList (nodes spec))) := by
    -- a spec that is a single node is read at the root and not as a sequence of one node
    have hsingle (value : Json) :=
      Outline.followsTree known (Outline.ofJson value) trail ⟨root, []⟩ [] parsed List.nodup_nil
    cases spec with
    | arr values => exact Outline.readAll_eq_ok_iff List.nodup_nil
    | str id =>
        simpa [parseAt, Sound, nodes, Outline.ofJsonList, Outline.AllSound, Outline.treeAll]
          using hsingle (.str id)
    | obj fields =>
        simpa [parseAt, Sound, nodes, Outline.ofJsonList, Outline.AllSound, Outline.treeAll]
          using hsingle (.obj fields)
    | null | bool _ | num _ =>
        simp [parseAt, Sound, nodes, Outline.ofJsonList, Outline.ofJson, Outline.AllSound,
          Outline.Sound]
  rw [houtline]
  constructor
  · rintro ⟨hsound, hnodup, hparsed⟩
    rw [Outline.treeAll_ofJsonList hsound] at hnodup hparsed
    exact ⟨hsound, hnodup, hparsed⟩
  · rintro ⟨hsound, hnodup, hparsed⟩
    rw [Outline.treeAll_ofJsonList hsound]
    exact ⟨hsound, hnodup, hparsed⟩

theorem parse_eq_ok_iff {spec : Json} {registry : Registry} {parsed : ParsedSpec} :
    parse spec registry = .ok parsed ↔
      Sound spec ∧ ((Item.idsOf (declared spec)).filter registry.contains).Nodup ∧
        parsed = .ofTree registry.contains [] (declared spec) :=
  parseAt_eq_ok_iff

/-- The references of a spec to unknown documents, in document order, as they are reported. -/
def unresolved (known : DocumentId → Bool) (spec : Json) : List Unresolved :=
  ((references spec).filter fun m => !known m.id).map Mention.unresolved

/-- **Nothing is lost, doubled or moved.** The leaves that a spec gives are its references to known
documents and the unresolved ones all its others, each in document order with the labels around it.
Every category of the spec stays where it was declared, and those declared without items are listed
whatever is known. -/
theorem parse_accounts_for_references {spec : Json} {registry : Registry} {parsed : ParsedSpec}
    (hparse : parse spec registry = .ok parsed) :
    Item.mentionsOf [] parsed.items =
        (references spec).filter (fun m => registry.contains m.id) ∧
      parsed.unresolved =
        ((references spec).filter fun m => !registry.contains m.id).map
          (fun m => ⟨m.id, .sidebar m.trail⟩) ∧
      parsed.items = Item.pruneAll registry.contains (declared spec) ∧
      parsed.emptyCategories =
        (Item.childlessOf [] (declared spec)).map (fun trail => Text.join " > " trail) := by
  obtain ⟨_, _, rfl⟩ := parse_eq_ok_iff.mp hparse
  exact ⟨Item.mentionsOf_pruneAll _ _ _, rfl, rfl, rfl⟩

def sampleRegistry : Registry :=
  { documents := Index.ofList
      [("intro", { id := "intro", title := "Introduction" }),
        ("faq", { id := "faq", title := "Questions" })] }

/-- A spec with an unknown document that occurs at three depths, a category that only refers to it,
and a category without items. -/
def sampleSpec : Json :=
  .arr
    [.str "intro", .str "ghost",
      .obj [("label", .str "Guides"), ("collapsed", .bool false),
        ("items", .arr
          [.obj [("type", .str "doc"), ("id", .str "faq"), ("label", .str "Questions")],
            .obj [("label", .str "Gone"), ("items", .arr [.str "ghost"])],
            .obj [("type", .str "category"), ("label", .str "Later"), ("items", .arr [])],
            .str "ghost"])]]

def sampleParsed : ParsedSpec :=
  { items :=
      [.doc "intro" none,
        .category "Guides" false
          [.doc "faq" (some "Questions"), .category "Gone" true [], .category "Later" true []]]
    unresolved :=
      [⟨"ghost", .sidebar []⟩, ⟨"ghost", .sidebar ["Guides", "Gone"]⟩,
        ⟨"ghost", .sidebar ["Guides"]⟩]
    emptyCategories := ["Guides > Later"] }

theorem parse_accounts_for_references_sample :
    parse sampleSpec sampleRegistry = .ok sampleParsed ∧
      Item.mentionsOf [] sampleParsed.items =
          (references sampleSpec).filter (fun m => sampleRegistry.contains m.id) ∧
        sampleParsed.unresolved =
          ((references sampleSpec).filter fun m => !sampleRegistry.contains m.id).map
            (fun m => ⟨m.id, .sidebar m.trail⟩) ∧
        sampleParsed.items = Item.pruneAll sampleRegistry.contains (declared sampleSpec) ∧
        sampleParsed.emptyCategories =
          (Item.childlessOf [] (declared sampleSpec)).map (fun trail => Text.join " > " trail) := by
  have hparse : parse sampleSpec sampleRegistry = .ok sampleParsed := rfl
  exact ⟨hparse, parse_accounts_for_references hparse⟩

end Spec

end Signpost
