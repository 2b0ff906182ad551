import Signpost.Spec
import Signpost.Proofs.IndexLookup
import Signpost.Proofs.ItemTree
import Signpost.Proofs.OutlineShape

/-!
# The tree that a spec declares

A spec says which tree it means whatever documents are known: a text and an object of type `doc` are
leaves, every other object is a category with the items that stand under it. Where no node of the
spec is malformed, this tree is the one that its outline declares.
-/

namespace Signpost

namespace Json

def textUnder? (key : String) (fields : List (String × Json)) : Option String :=
  (fields.lookup key).bind asString?

/-- Whether a category starts collapsed; it does unless it says otherwise. -/
def collapsedFlag (fields : List (String × Json)) : Bool :=
  match fields.lookup "collapsed" with
  | some (.bool collapsed) => collapsed
  | _ => true

mutual

/-- The item that a value declares. -/
def declared : Json → List Item
  | .str id => [.doc id none]
  | .obj fields =>
    if textUnder? "type" fields = some "doc" then
      [.doc ((textUnder? "id" fields).getD "") (textUnder? "label" fields)]
    else
      [.category ((textUnder? "label" fields).getD "") (collapsedFlag fields)
        (declaredUnder fields)]
  | .null | .bool _ | .num _ | .arr _ => []

def declaredAll : List Json → List Item
  | [] => []
  | value :: values => value.declared ++ declaredAll values

def declaredUnder : List (String × Json) → List Item
  | [] => []
  | (key, value) :: fields =>
    if key = "items" then value.declaredIn else declaredUnder fields

def declaredIn : Json → List Item
  | .arr values => declaredAll values
  | .null | .bool _ | .num _ | .str _ | .obj _ => []

end

theorem sizeOf_items_lt {fields : List (String × Json)} {values : List Json}
    (hitems : fields.lookup "items" = some (.arr values)) : sizeOf values < sizeOf fields := by
  obtain ⟨front, back, hfields, _⟩ := List.lookup_eq_some_iff.mp hitems
  have hmem : ("items", arr values) ∈ fields := by simp [hfields]
  have hlt := List.sizeOf_lt_of_mem hmem
  simp only [Prod.mk.sizeOf_spec, arr.sizeOf_spec] at hlt
  omega

/-- What holds of a list of values without its first one, and of the items of that one if it is an
object, holds of every list of values. -/
@[elab_as_elim]
theorem nodeInduction {motive : List Json → Prop} (nil : motive [])
    (text : ∀ id rest, motive rest → motive (.str id :: rest))
    (object : ∀ fields rest, (∀ values, fields.lookup "items" = some (.arr values) → motive values) →
      motive rest → motive (.obj fields :: rest))
    (other : ∀ value rest, (∀ id, value ≠ .str id) → (∀ fields, value ≠ .obj fields) →
      motive rest → motive (value :: rest)) : ∀ values, motive values
  | [] => nil
  | .str id :: rest => text id rest (nodeInduction nil text object other rest)
  | .obj fields :: rest =>
    object fields rest
      (fun values hitems =>
        -- the items of an object are found by a key and are no part of the pattern
        have := sizeOf_items_lt hitems
        nodeInduction nil text object other values)
      (nodeInduction nil text object other rest)
  | .null :: rest => other .null rest (by simp) (by simp) (nodeInduction nil text object other rest)
  | .bool b :: rest =>
    other (.bool b) rest (by simp) (by simp) (nodeInduction nil text object other rest)
  | .num n :: rest =>
    other (.num n) rest (by simp) (by simp) (nodeInduction nil text object other rest)
  | .arr values :: rest =>
    other (.arr values) rest (by simp) (by simp) (nodeInduction nil text object other rest)
termination_by values => sizeOf values

/-- A function that goes through the fields of an object up to its items gives what it gives for
these, or what it gives for no fields at all. -/
theorem eq_of_items {β : Type} {f : List (String × Json) → β} {g : Json → β}
    (hcons : ∀ key value fields, f ((key, value) :: fields) =
      if key = "items" then g value else f fields) (fields : List (String × Json)) :
    f fields = ((fields.lookup "items").map g).getD (f []) := by
  induction fields with
  | nil => rfl
  | cons field fields ih =>
      obtain ⟨key, value⟩ := field
      rw [hcons, Index.lookup_cons_eq_ite]
      by_cases hkey : key = "items"
      · rw [if_pos hkey, if_pos hkey.symm, Option.map_some, Option.getD_some]
      · rw [if_neg hkey, if_neg (Ne.symm hkey), ih]

theorem declaredUnder_of_lookup {fields : List (String × Json)} {values : List Json}
    (hitems : fields.lookup "items" = some (.arr values)) :
    declaredUnder fields = declaredAll values := by
  have heq := eq_of_items (f := declaredUnder) (fun _ _ _ => by rw [declaredUnder]) fields
  rw [heq, hitems, Option.map_some, Option.getD_some, declaredIn]

theorem collapsedFlag_of_isCategory {fields : List (String × Json)} {label : String}
    {collapsed : Bool} (hcategory : Outline.IsCategory fields label collapsed) :
    collapsedFlag fields = collapsed := by
  unfold collapsedFlag
  rcases hcategory.collapsed_eq with hflag | ⟨hflag, rfl⟩ <;> rw [hflag]

section Shapes

variable {fields : List (String × Json)}

theorem textUnder?_of_lookup {key text : String} (hlookup : fields.lookup key = some (.str text)) :
    textUnder? key fields = some text := by
  rw [textUnder?, hlookup, Option.bind_some, asString?]

theorem textUnder?_type_ne_doc {label : String} {collapsed : Bool}
    (hcategory : Outline.IsCategory fields label collapsed) :
    textUnder? "type" fields ≠ some "doc" := by
  rcases hcategory.type_eq with htype | htype <;> simp [textUnder?, htype, asString?]

theorem declared_of_isDocEntry {id : DocumentId} {label : Option String}
    (hentry : Outline.IsDocEntry fields id label) : declared (.obj fields) = [.doc id label] := by
  have hlabel : textUnder? "label" fields = label := by
    rw [textUnder?, hentry.label_eq]
    cases label <;> simp [asString?]
  rw [declared, if_pos (textUnder?_of_lookup hentry.type_eq), textUnder?_of_lookup hentry.id_eq,
    hlabel, Option.getD_some]

theorem declared_of_isCategory {label : String} {collapsed : Bool} {values : List Json}
    (hcategory : Outline.IsCategory fields label collapsed)
    (hitems : fields.lookup "items" = some (.arr values)) :
    declared (.obj fields) = [.category label collapsed (declaredAll values)] := by
  rw [declared, if_neg (textUnder?_type_ne_doc hcategory),
    textUnder?_of_lookup hcategory.label_eq, Option.getD_some,
    collapsedFlag_of_isCategory hcategory, declaredUnder_of_lookup hitems]

end Shapes

end Json

namespace Outline

theorem childrenOf_eq_entries_iff {fields : List (String × Json)} {nodes : List Outline} :
    childrenOf fields = .entries nodes ↔
      ∃ values, fields.lookup "items" = some (.arr values) ∧ nodes = ofJsonList values := by
  have heq := Json.eq_of_items (f := childrenOf) (fun _ _ _ => by rw [childrenOf]) fields
  rw [heq]
  cases fields.lookup "items" with
  | none => simp [childrenOf]
  | some value => cases value <;> simp [childrenOfValue, eq_comm]

theorem ofJson_of_isDocEntry {fields : List (String × Json)} {id : DocumentId}
    {label : Option String} (hentry : IsDocEntry fields id label) :
    ofJson (.obj fields) = .reference id label := by
  rw [ofJson, ofObject_eq_reference_iff.mpr hentry]

theorem ofJson_of_isCategory {fields : List (String × Json)} {label : String} {collapsed : Bool}
    {values : List Json} (hcategory : IsCategory fields label collapsed)
    (hitems : fields.lookup "items" = some (.arr values)) :
    ofJson (.obj fields) = .group label collapsed (ofJsonList values) := by
  rw [ofJson, ofObject_eq_group_iff.mpr
    ⟨hcategory, childrenOf_eq_entries_iff.mpr ⟨values, hitems, rfl⟩⟩]

theorem sound_ofJson_str_iff {id : DocumentId} :
    (ofJson (.str id)).Sound ↔ Text.isBlank id = false := by
  rw [ofJson, ofReference]
  split <;> simp [Sound, *]

theorem ofJson_str {id : DocumentId} (hblank : Text.isBlank id = false) :
    ofJson (.str id) = .reference id none := by
  rw [ofJson, ofReference_eq_reference_iff]
  exact ⟨hblank, rfl, rfl⟩

/-- An object in which nothing is malformed is a document entry, or a category with a sequence of
items in which nothing is malformed. -/
theorem isDocEntry_or_isCategory {fields : List (String × Json)}
    (hsound : (ofJson (.obj fields)).Sound) :
    (∃ id label, IsDocEntry fields id label) ∨
      ∃ label collapsed values, IsCategory fields label collapsed ∧
        fields.lookup "items" = some (.arr values) ∧ AllSound (ofJsonList values) := by
  rw [ofJson] at hsound
  cases hobject : ofObject fields (childrenOf fields) with
  | reference id label => exact .inl ⟨id, label, ofObject_eq_reference_iff.mp hobject⟩
  | group label collapsed nodes =>
      obtain ⟨hcategory, hchildren⟩ := ofObject_eq_group_iff.mp hobject
      obtain ⟨values, hitems, rfl⟩ := childrenOf_eq_entries_iff.mp hchildren
      rw [hobject] at hsound
      exact .inr ⟨label, collapsed, values, hcategory, hitems, hsound⟩
  | malformed fault =>
      rw [hobject] at hsound
      exact hsound.elim

theorem not_sound_of_other {value : Json} (hnotText : ∀ id, value ≠ .str id)
    (hnotObject : ∀ fields, value ≠ .obj fields) : ¬(ofJson value).Sound := by
  cases value with
  | str id => exact absurd rfl (hnotText id)
  | obj fields => exact absurd rfl (hnotObject fields)
  | null => exact id
  | bool value => exact id
  | num value => exact id
  | arr values => exact id

/-- Values that are the nodes of a spec, by the grammar of specs. -/
inductive WellFormed : List Json → Prop where
  | nil : WellFormed []
  | text {id : DocumentId} {rest : List Json} :
      Text.isBlank id = false → WellFormed rest → WellFormed (.str id :: rest)
  | docEntry {fields : List (String × Json)} {id : DocumentId} {label : Option String}
      {rest : List Json} :
      IsDocEntry fields id label → WellFormed rest → WellFormed (.obj fields :: rest)
  | category {fields : List (String × Json)} {label : String} {collapsed : Bool}
      {values rest : List Json} :
      IsCategory fields label collapsed → fields.lookup "items" = some (.arr values) →
        WellFormed values → WellFormed rest → WellFormed (.obj fields :: rest)

/-- No node is malformed exactly when the values follow the grammar. -/
theorem allSound_ofJsonList_iff {values : List Json} :
    AllSound (ofJsonList values) ↔ WellFormed values := by
  constructor
  · intro hsound
    induction values using Json.nodeInduction with
    | nil => exact .nil
    | text id rest ih => exact .text (sound_ofJson_str_iff.mp hsound.1) (ih hsound.2)
    | object fields rest ihItems ihRest =>
        rcases isDocEntry_or_isCategory hsound.1 with
          ⟨id, label, hentry⟩ | ⟨label, collapsed, values, hcategory, hitems, hvalues⟩
        · exact .docEntry hentry (ihRest hsound.2)
        · exact .category hcategory hitems (ihItems values hitems hvalues) (ihRest hsound.2)
    | other value rest hnotText hnotObject ih =>
        exact absurd hsound.1 (not_sound_of_other hnotText hnotObject)
  · intro hvalues
    induction hvalues with
    | nil => exact trivial
    | text hid _ ih => exact ⟨sound_ofJson_str_iff.mpr hid, ih⟩
    | docEntry hentry _ ih =>
        rw [ofJsonList, ofJson_of_isDocEntry hentry]
        exact ⟨trivial, ih⟩
    | category hcategory hitems _ _ ihItems ihRest =>
        rw [ofJsonList, ofJson_of_isCategory hcategory hitems]
        exact ⟨ihItems, ihRest⟩

/-- Where nothing is malformed, an outline declares what the values say that it was read from. -/
theorem treeAll_ofJsonList {values : List Json} (hsound : AllSound (ofJsonList values)) :
    treeAll (ofJsonList values) = Json.declaredAll values := by
  induction allSound_ofJsonList_iff.mp hsound with
  | nil => rfl
  | text hid _ ih =>
      rw [ofJsonList, ofJson_str hid, treeAll, ih hsound.2, tree, Json.declaredAll, Json.declared]
  | docEntry hentry _ ih =>
      rw [ofJsonList, ofJson_of_isDocEntry hentry, treeAll, ih hsound.2, tree, Json.declaredAll,
        Json.declared_of_isDocEntry hentry]
  | category hcategory hitems _ _ ihItems ihRest =>
      rw [ofJsonList, ofJson_of_isCategory hcategory hitems] at hsound
      rw [ofJsonList, ofJson_of_isCategory hcategory hitems, treeAll, ihRest hsound.2, tree,
        ihItems hsound.1, Json.declaredAll, Json.declared_of_isCategory hcategory hitems]

end Outline

namespace Spec

/-- The nodes of a whole spec: those of a sequence, or the one that it is itself. -/
def nodes : Json → List Json
  | .arr values => values
  | spec => [spec]

def declared (spec : Json) : List Item :=
  Json.declaredAll (nodes spec)

/-- No node of a whole spec is malformed. -/
def Sound (spec : Json) : Prop :=
  Outline.AllSound (Outline.ofJsonList (nodes spec))

/-- The references in a spec, in document order, each with the labels around it. -/
def references (spec : Json) : List Mention :=
  Item.mentionsOf [] (declared spec)

end Spec

end Signpost
