import Signpost.Output
import Signpost.Proofs.PolicyRuns

/-!
# A written tree is a spec

A tree of items is written in the form of a spec. Read back, it gives the same tree, provided that no
id and no category label is blank, that no document occurs twice, and that all documents are known.
Every tree that was read from a spec meets the first two conditions, whatever was known then.
-/

namespace Signpost

namespace Item

mutual

/-- No id of a leaf and no label of a category is blank. -/
def NonBlank : Item → Prop
  | .doc id _ => Text.isBlank id = false
  | .category label _ items => Text.isBlank label = false ∧ AllNonBlank items

def AllNonBlank : List Item → Prop
  | [] => True
  | item :: items => item.NonBlank ∧ AllNonBlank items

end

theorem allNonBlank_append {front back : List Item} :
    AllNonBlank (front ++ back) ↔ AllNonBlank front ∧ AllNonBlank back := by
  induction front with
  | nil => simp [AllNonBlank]
  | cons item items ih => simp [AllNonBlank, ih, and_assoc]

theorem allNonBlank_pruneAll (known : DocumentId → Bool) {items : List Item}
    (hitems : AllNonBlank items) : AllNonBlank (pruneAll known items) := by
  induction items using forestInduction with
  | nil => exact trivial
  | doc id label rest ih =>
      obtain ⟨hid, hrest⟩ := hitems
      rw [pruneAll, prune, allNonBlank_append]
      refine ⟨?_, ih hrest⟩
      split
      · exact ⟨hid, trivial⟩
      · exact trivial
  | category label collapsed items rest ihItems ihRest =>
      obtain ⟨⟨hlabel, hinner⟩, hrest⟩ := hitems
      rw [pruneAll, prune, allNonBlank_append]
      exact ⟨⟨⟨hlabel, ihItems hinner⟩, trivial⟩, ihRest hrest⟩

end Item

namespace Json

/-- What a spec declares has no blank ids and no blank category labels. -/
theorem allNonBlank_declaredAll {values : List Json} (hvalues : Outline.WellFormed values) :
    Item.AllNonBlank (declaredAll values) := by
  induction hvalues with
  | nil => exact trivial
  | text hid _ ih =>
      rw [declaredAll, declared, Item.allNonBlank_append]
      exact ⟨⟨hid, trivial⟩, ih⟩
  | docEntry hentry _ ih =>
      rw [declaredAll, declared_of_isDocEntry hentry, Item.allNonBlank_append]
      exact ⟨⟨hentry.id_notBlank, trivial⟩, ih⟩
  | category hcategory hitems _ _ ihItems ihRest =>
      rw [declaredAll, declared_of_isCategory hcategory hitems, Item.allNonBlank_append]
      exact ⟨⟨⟨hcategory.label_notBlank, ihItems⟩, trivial⟩, ihRest⟩

end Json

namespace Outline

theorem isDocEntry_written {id : DocumentId} (label : Option String)
    (hid : Text.isBlank id = false) :
    IsDocEntry ([("type", .str "doc"), ("id", .str id)] ++ optionalField "label" label) id label where
  type_eq := by simp
  id_eq := by simp [Index.lookup_cons_eq_ite]
  id_notBlank := hid
  label_eq := by cases label <;> simp [optionalField, Index.lookup_cons_eq_ite]

theorem isCategory_written {label : String} (collapsed : Bool) (items : List Item)
    (hlabel : Text.isBlank label = false) :
    IsCategory
      [("type", .str "category"), ("label", .str label), ("collapsed", .bool collapsed),
        ("items", .arr (Item.listToJson items))] label collapsed where
  type_eq := .inl (by simp)
  label_eq := by simp [Index.lookup_cons_eq_ite]
  label_notBlank := hlabel
  collapsed_eq := .inl (by simp [Index.lookup_cons_eq_ite])

theorem lookup_items_written (label : String) (collapsed : Bool) (items : List Item) :
    List.lookup "items"
      [("type", Json.str "category"), ("label", .str label), ("collapsed", .bool collapsed),
        ("items", .arr (Item.listToJson items))] = some (.arr (Item.listToJson items)) := by
  simp [Index.lookup_cons_eq_ite]

/-- A written tree follows the grammar of specs. -/
theorem wellFormed_listToJson {items : List Item} (hitems : Item.AllNonBlank items) :
    WellFormed (Item.listToJson items) := by
  induction items using Item.forestInduction with
  | nil => exact .nil
  | doc id label rest ih =>
      obtain ⟨hid, hrest⟩ := hitems
      exact .docEntry (isDocEntry_written label hid) (ih hrest)
  | category label collapsed items rest ihItems ihRest =>
      obtain ⟨⟨hlabel, hinner⟩, hrest⟩ := hitems
      exact .category (isCategory_written collapsed items hlabel)
        (lookup_items_written label collapsed items) (ihItems hinner) (ihRest hrest)

/-- A written tree declares itself. -/
theorem declaredAll_listToJson {items : List Item} (hitems : Item.AllNonBlank items) :
    Json.declaredAll (Item.listToJson items) = items := by
  induction items using Item.forestInduction with
  | nil => rfl
  | doc id label rest ih =>
      obtain ⟨hid, hrest⟩ := hitems
      have hentry := isDocEntry_written label hid
      rw [Item.listToJson, Item.toJson, Json.declaredAll, Json.declared_of_isDocEntry hentry,
        ih hrest]
      rfl
  | category label collapsed items rest ihItems ihRest =>
      obtain ⟨⟨hlabel, hinner⟩, hrest⟩ := hitems
      have hcategory := isCategory_written collapsed items hlabel
      have hlookup := lookup_items_written label collapsed items
      rw [Item.listToJson, Item.toJson, Json.declaredAll,
        Json.declared_of_isCategory hcategory hlookup, ihItems hinner, ihRest hrest]
      rfl

end Outline

namespace Spec

theorem parse_listToJson {items : List Item} {registry : Registry}
    (hblank : Item.AllNonBlank items) (hnodup : (Item.idsOf items).Nodup)
    (hknown : ∀ id ∈ Item.idsOf items, registry.contains id = true) :
    parse (.arr (Item.listToJson items)) registry =
      .ok
        { items := items
          unresolved := []
          emptyCategories := (Item.childlessOf [] items).map trailText } := by
  have htree : declared (.arr (Item.listToJson items)) = items :=
    Outline.declaredAll_listToJson hblank
  have hsound : Sound (.arr (Item.listToJson items)) :=
    Outline.allSound_ofJsonList_iff.mpr (Outline.wellFormed_listToJson hblank)
  refine parse_eq_ok_iff.mpr ⟨hsound, ?_, ?_⟩
  · rw [htree]
    exact hnodup.filter _
  · have hmentions : (Item.mentionsOf [] items).filter (fun m => !registry.contains m.id) = [] := by
      rw [List.filter_eq_nil_iff]
      intro m hm
      have hid : m.id ∈ Item.idsOf items := by
        rw [Item.idsOf_eq_map_mentionsOf []]
        exact List.mem_map_of_mem hm
      simp [hknown m.id hid]
    rw [htree, ParsedSpec.ofTree, Item.pruneAll_eq_self hknown, hmentions, List.map_nil]

/-- **A written tree reads back.** The tree that was read from a spec, written out and read again by
anyone who knows its documents, is the same tree. Nothing in it is then unresolved, the empty
categories are those without items, and its navigation under the strictest policy is the one that the
spec gave when its unresolved references were dropped. -/
theorem parse_written_tree {spec : Json} {registry registry' : Registry} {parsed : ParsedSpec}
    (hparse : parse spec registry = .ok parsed)
    (hknown : ∀ id ∈ Item.idsOf parsed.items, registry'.contains id = true) :
    parse (.arr (Item.listToJson parsed.items)) registry' =
        .ok
          { items := parsed.items
            unresolved := []
            emptyCategories := (Item.childlessOf [] parsed.items).map trailText } ∧
      ∃ nav, ∀ reports,
        Navigation.build (.arr (Item.listToJson parsed.items)) registry' .throw reports =
            ⟨.ok nav, reports⟩ ∧
          Navigation.build spec registry .ignore reports = ⟨.ok nav, reports⟩ := by
  obtain ⟨hsound, hnodup, hparsed⟩ := parse_eq_ok_iff.mp hparse
  have hitems : parsed.items = Item.pruneAll registry.contains (declared spec) := by rw [hparsed]; rfl
  have hblank : Item.AllNonBlank parsed.items := by
    rw [hitems]
    exact Item.allNonBlank_pruneAll _
      (Json.allNonBlank_declaredAll (Outline.allSound_ofJsonList_iff.mp hsound))
  have hdistinct : (Item.idsOf parsed.items).Nodup := by
    rwa [hitems, Item.idsOf_pruneAll]
  have hwritten := parse_listToJson hblank hdistinct hknown
  refine ⟨hwritten, Navigation.ofItems parsed.items, fun reports => ⟨?_, ?_⟩⟩
  · rw [Navigation.build_of_parse_eq_ok hwritten, Navigation.ofParsed_of_unresolved_eq_nil rfl]
  · rw [Navigation.build_of_parse_eq_ok hparse, Navigation.ofParsed_ignore]

theorem parse_written_tree_sample :
    let larger : Registry :=
      { documents := sampleRegistry.documents.insert "ghost" { id := "ghost", title := "Ghost" } }
    parse sampleSpec sampleRegistry = .ok sampleParsed ∧
      (∀ id ∈ Item.idsOf sampleParsed.items, larger.contains id = true) ∧
      parse (.arr (Item.listToJson sampleParsed.items)) larger =
        .ok
          { items := sampleParsed.items
            unresolved := []
            emptyCategories := ["Guides > Gone", "Guides > Later"] } := by
  intro larger
  have hparse : parse sampleSpec sampleRegistry = .ok sampleParsed := rfl
  have hknown : ∀ id ∈ Item.idsOf sampleParsed.items, larger.contains id = true := by decide
  exact ⟨hparse, hknown, (parse_written_tree hparse hknown).1⟩

end Spec

end Signpost
