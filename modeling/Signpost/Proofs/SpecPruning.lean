import Signpost.Proofs.SpecReading

/-!
# Leaving unknown documents out of a spec

The references to unknown documents can be struck out of a spec itself. Everything else in it stays
as it is written, so that the shorter spec declares the shorter tree, and nothing in it is unresolved.
-/

namespace Signpost

namespace Json

mutual

/-- A node of a spec without the references to unknown documents; of such a reference nothing is
left. -/
def pruneNode (known : DocumentId → Bool) : Json → List Json
  | .str id => if known id then [.str id] else []
  | .obj fields =>
    if textUnder? "type" fields = some "doc" then
      if known ((textUnder? "id" fields).getD "") then [.obj fields] else []
    else [.obj (pruneFields known fields)]
  | .null => [.null]
  | .bool value => [.bool value]
  | .num value => [.num value]
  | .arr values => [.arr values]

def pruneNodes (known : DocumentId → Bool) : List Json → List Json
  | [] => []
  | value :: values => value.pruneNode known ++ pruneNodes known values

/-- The fields of a category, with references to unknown documents left out of its items. -/
def pruneFields (known : DocumentId → Bool) : List (String × Json) → List (String × Json)
  | [] => []
  | (key, value) :: fields =>
    if key = "items" then (key, value.pruneItems known) :: fields
    else (key, value) :: pruneFields known fields

def pruneItems (known : DocumentId → Bool) : Json → Json
  | .arr values => .arr (pruneNodes known values)
  | .null => .null
  | .bool value => .bool value
  | .num value => .num value
  | .str value => .str value
  | .obj fields => .obj fields

end

variable (known : DocumentId → Bool) {fields : List (String × Json)}

theorem lookup_pruneFields_of_ne {key : String} (hkey : key ≠ "items") :
    (pruneFields known fields).lookup key = fields.lookup key := by
  induction fields with
  | nil => rfl
  | cons field fields ih =>
      obtain ⟨other, value⟩ := field
      rw [pruneFields]
      split
      · rename_i hother
        have hne : key ≠ other := by rwa [hother]
        rw [Index.lookup_cons_eq_ite, Index.lookup_cons_eq_ite, if_neg hne, if_neg hne]
      · rw [Index.lookup_cons_eq_ite, Index.lookup_cons_eq_ite, ih]

theorem lookup_items_pruneFields {values : List Json}
    (hitems : fields.lookup "items" = some (.arr values)) :
    (pruneFields known fields).lookup "items" = some (.arr (pruneNodes known values)) := by
  induction fields with
  | nil => simp at hitems
  | cons field fields ih =>
      obtain ⟨key, value⟩ := field
      rw [Index.lookup_cons_eq_ite] at hitems
      rw [pruneFields]
      by_cases hkey : key = "items"
      · rw [if_pos hkey.symm, Option.some.injEq] at hitems
        rw [if_pos hkey, hitems, pruneItems, Index.lookup_cons_eq_ite, if_pos hkey.symm]
      · rw [if_neg (Ne.symm hkey)] at hitems
        rw [if_neg hkey, Index.lookup_cons_eq_ite, if_neg (Ne.symm hkey), ih hitems]

theorem isCategory_pruneFields {label : String} {collapsed : Bool}
    (hcategory : Outline.IsCategory fields label collapsed) :
    Outline.IsCategory (pruneFields known fields) label collapsed where
  type_eq := by
    rw [lookup_pruneFields_of_ne known (by decide)]
    exact hcategory.type_eq
  label_eq := by
    rw [lookup_pruneFields_of_ne known (by decide)]
    exact hcategory.label_eq
  label_notBlank := hcategory.label_notBlank
  collapsed_eq := by
    rw [lookup_pruneFields_of_ne known (by decide)]
    exact hcategory.collapsed_eq

theorem declaredAll_append (front back : List Json) :
    declaredAll (front ++ back) = declaredAll front ++ declaredAll back := by
  induction front with
  | nil => rfl
  | cons value values ih => simp [declaredAll, ih]

end Json

namespace Outline

theorem allSound_ofJsonList_append {front back : List Json} :
    AllSound (ofJsonList (front ++ back)) ↔
      AllSound (ofJsonList front) ∧ AllSound (ofJsonList back) := by
  induction front with
  | nil => simp [ofJsonList, AllSound]
  | cons value values ih => simp [ofJsonList, AllSound, ih, and_assoc]

/-- What striking unknown documents out of values should come to: nothing becomes malformed, and the
tree loses the leaves of these documents. -/
def PrunesTo (known : DocumentId → Bool) (values pruned : List Json) : Prop :=
  AllSound (ofJsonList pruned) ∧
    Json.declaredAll pruned = Item.pruneAll known (Json.declaredAll values)

theorem prunesTo_cons {known : DocumentId → Bool} {value : Json} {values : List Json}
    (hnode : PrunesTo known [value] (value.pruneNode known))
    (hrest : PrunesTo known values (Json.pruneNodes known values)) :
    PrunesTo known (value :: values) (Json.pruneNodes known (value :: values)) := by
  refine ⟨allSound_ofJsonList_append.mpr ⟨hnode.1, hrest.1⟩, ?_⟩
  rw [Json.pruneNodes, Json.declaredAll_append, hnode.2, hrest.2, ← Item.pruneAll_append,
    ← Json.declaredAll_append, List.singleton_append]

theorem prunesTo_text {known : DocumentId → Bool} {id : DocumentId}
    (hblank : Text.isBlank id = false) :
    PrunesTo known [.str id] ((Json.str id).pruneNode known) := by
  cases hknown : known id with
  | false =>
      simp [PrunesTo, Json.pruneNode, Json.declaredAll, Json.declared, Item.pruneAll, Item.prune,
        ofJsonList, AllSound, hknown]
  | true =>
      simp [PrunesTo, Json.pruneNode, Json.declaredAll, Json.declared, Item.pruneAll, Item.prune,
        ofJsonList, AllSound, ofJson_str hblank, Sound, hknown]

theorem prunesTo_docEntry {known : DocumentId → Bool} {fields : List (String × Json)}
    {id : DocumentId} {label : Option String} (hentry : IsDocEntry fields id label) :
    PrunesTo known [.obj fields] ((Json.obj fields).pruneNode known) := by
  have hdeclared := Json.declared_of_isDocEntry hentry
  rw [Json.pruneNode, if_pos (Json.textUnder?_of_lookup hentry.type_eq),
    Json.textUnder?_of_lookup hentry.id_eq, Option.getD_some]
  cases hknown : known id with
  | false =>
      simp [PrunesTo, Json.declaredAll, hdeclared, Item.pruneAll, Item.prune, ofJsonList, AllSound,
        hknown]
  | true =>
      simp [PrunesTo, Json.declaredAll, hdeclared, Item.pruneAll, Item.prune, ofJsonList, AllSound,
        ofJson_of_isDocEntry hentry, Sound, hknown]

theorem prunesTo_category {known : DocumentId → Bool} {fields : List (String × Json)}
    {label : String} {collapsed : Bool} {values : List Json}
    (hcategory : IsCategory fields label collapsed)
    (hitems : fields.lookup "items" = some (.arr values))
    (hvalues : PrunesTo known values (Json.pruneNodes known values)) :
    PrunesTo known [.obj fields] ((Json.obj fields).pruneNode known) := by
  have hpruned := Json.isCategory_pruneFields known hcategory
  have hprunedItems := Json.lookup_items_pruneFields known hitems
  rw [Json.pruneNode, if_neg (Json.textUnder?_type_ne_doc hcategory)]
  constructor
  · rw [ofJsonList, ofJson_of_isCategory hpruned hprunedItems]
    exact ⟨hvalues.1, trivial⟩
  · simp only [Json.declaredAll, Json.declared_of_isCategory hcategory hitems,
      Json.declared_of_isCategory hpruned hprunedItems, hvalues.2, Item.pruneAll, Item.prune,
      List.append_nil]

theorem prunesTo_pruneNodes (known : DocumentId → Bool) {values : List Json}
    (hvalues : WellFormed values) : PrunesTo known values (Json.pruneNodes known values) := by
  induction hvalues with
  | nil => exact ⟨trivial, rfl⟩
  | text hid _ ih => exact prunesTo_cons (prunesTo_text hid) ih
  | docEntry hentry _ ih => exact prunesTo_cons (prunesTo_docEntry hentry) ih
  | category hcategory hitems _ _ ihItems ihRest =>
      exact prunesTo_cons (prunesTo_category hcategory hitems ihItems) ihRest

end Outline

namespace Spec

/-- A whole spec without the references to unknown documents, as a sequence. -/
def prune (known : DocumentId → Bool) (spec : Json) : Json :=
  .arr (Json.pruneNodes known (nodes spec))

/-- Without its references to unknown documents a spec gives the same items and leaves nothing
unresolved. -/
theorem parse_prune {spec : Json} {registry : Registry} {parsed : ParsedSpec}
    (hparse : parse spec registry = .ok parsed) :
    ∃ pruned, parse (prune registry.contains spec) registry = .ok pruned ∧
      pruned.items = parsed.items ∧ pruned.unresolved = [] := by
  obtain ⟨hsound, hnodup, rfl⟩ := parse_eq_ok_iff.mp hparse
  have hprunes := Outline.prunesTo_pruneNodes registry.contains
    (Outline.allSound_ofJsonList_iff.mp hsound)
  have hdeclared : declared (prune registry.contains spec) =
      Item.pruneAll registry.contains (declared spec) := hprunes.2
  refine ⟨.ofTree registry.contains [] (declared (prune registry.contains spec)), ?_, ?_, ?_⟩
  · refine parse_eq_ok_iff.mpr ⟨hprunes.1, ?_, rfl⟩
    rw [hdeclared, Item.idsOf_pruneAll, List.filter_filter]
    simpa using hnodup
  · rw [hdeclared]
    exact Item.pruneAll_eq_self fun id hid =>
      (List.mem_filter.mp (Item.idsOf_pruneAll _ _ ▸ hid)).2
  · simp [ParsedSpec.ofTree, hdeclared, Item.mentionsOf_pruneAll, List.filter_filter]

end Spec

end Signpost
