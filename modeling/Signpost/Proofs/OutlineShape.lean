import Signpost.Outline
import Signpost.Item

/-!
# Which objects stand for which nodes

An object stands for a reference or for a group exactly when its fields say so; everything else is
malformed. An outline in which nothing is malformed is a tree of items, written down before any
document is looked up.
-/

namespace Signpost.Outline

/-- The fields of an object that is a document entry. -/
structure IsDocEntry (fields : List (String × Json)) (id : DocumentId) (label : Option String) :
    Prop where
  type_eq : fields.lookup "type" = some (.str "doc")
  id_eq : fields.lookup "id" = some (.str id)
  id_notBlank : Text.isBlank id = false
  label_eq : fields.lookup "label" = label.map .str

/-- The fields of an object that is a category, apart from its items. -/
structure IsCategory (fields : List (String × Json)) (label : String) (collapsed : Bool) :
    Prop where
  type_eq : fields.lookup "type" = some (.str "category") ∨ fields.lookup "type" = none
  label_eq : fields.lookup "label" = some (.str label)
  label_notBlank : Text.isBlank label = false
  collapsed_eq : fields.lookup "collapsed" = some (.bool collapsed) ∨
    fields.lookup "collapsed" = none ∧ collapsed = true

section Fields

variable {fields : List (String × Json)} {children : Children}

theorem optionalString_eq_ok_iff {key : String} {value : Option String} :
    optionalString fields key = .ok value ↔ fields.lookup key = value.map .str := by
  unfold optionalString
  split
  · rename_i hlookup
    rw [hlookup]
    cases value <;> simp
  · rename_i text hlookup
    rw [hlookup]
    cases value <;> simp [eq_comm]
  · rename_i other hnotText hlookup
    rw [hlookup]
    cases value with
    | none => simp
    | some text => simpa using fun heq => hnotText text heq

theorem collapsedMark_eq_some_iff {collapsed : Bool} :
    collapsedMark fields = some collapsed ↔
      fields.lookup "collapsed" = some (.bool collapsed) ∨
        fields.lookup "collapsed" = none ∧ collapsed = true := by
  unfold collapsedMark
  split
  · rename_i hlookup
    simp [hlookup, eq_comm]
  · rename_i flag hlookup
    simp [hlookup]
  · rename_i other hnotBool hlookup
    simpa [hlookup] using fun heq => hnotBool collapsed heq

theorem ofReference_eq_reference_iff {id id' : DocumentId} {label label' : Option String} :
    ofReference id label = .reference id' label' ↔
      Text.isBlank id = false ∧ id = id' ∧ label = label' := by
  unfold ofReference
  split <;> simp [*]

theorem ofReference_ne_group {id : DocumentId} {own : Option String} {label : String}
    {collapsed : Bool} {nodes : List Outline} : ofReference id own ≠ .group label collapsed nodes := by
  unfold ofReference
  split <;> simp

theorem ofDocEntry_ne_group {label : String} {collapsed : Bool} {nodes : List Outline} :
    ofDocEntry fields ≠ .group label collapsed nodes := by
  unfold ofDocEntry
  split
  · split
    · exact ofReference_ne_group
    · simp
  all_goals simp

theorem ofDocEntry_eq_reference_iff {id : DocumentId} {label : Option String} :
    ofDocEntry fields = .reference id label ↔
      fields.lookup "id" = some (.str id) ∧ Text.isBlank id = false ∧
        fields.lookup "label" = label.map .str := by
  rw [← optionalString_eq_ok_iff]
  unfold ofDocEntry
  split
  · rename_i written hid
    rw [hid]
    cases hlabel : optionalString fields "label" with
    | error fault => simp
    | ok own =>
        simp only [ofReference_eq_reference_iff, Option.some.injEq, Json.str.injEq,
          Except.ok.injEq]
        constructor
        · rintro ⟨hblank, rfl, rfl⟩
          exact ⟨rfl, hblank, rfl⟩
        · rintro ⟨rfl, hblank, rfl⟩
          exact ⟨hblank, rfl, rfl⟩
  · rename_i other hnotText hid
    simpa [hid] using fun heq => absurd heq (hnotText id)
  · rename_i hid
    simp [hid]

theorem ofCategory_ne_reference {id : DocumentId} {label : Option String} :
    ofCategory fields children ≠ .reference id label := by
  unfold ofCategory
  split
  · simp
  · simp
  · split
    · simp
    · split
      · simp
      · split <;> simp

theorem ofCategory_eq_group_iff {label : String} {collapsed : Bool} {nodes : List Outline} :
    ofCategory fields children = .group label collapsed nodes ↔
      fields.lookup "label" = some (.str label) ∧ Text.isBlank label = false ∧
        collapsedMark fields = some collapsed ∧ children = .entries nodes := by
  constructor
  · intro hcategory
    unfold ofCategory at hcategory
    split at hcategory
    · simp at hcategory
    · simp at hcategory
    · rename_i written hlabel
      split at hcategory
      · simp at hcategory
      · rename_i hblank
        split at hcategory
        · simp at hcategory
        · rename_i flag hmark
          split at hcategory
          · injection hcategory with hwritten hflag hnodes
            subst hwritten hflag hnodes
            exact ⟨optionalString_eq_ok_iff.mp hlabel, by simpa using hblank, hmark, rfl⟩
          · simp at hcategory
          · simp at hcategory
  · rintro ⟨hlabel, hblank, hmark, rfl⟩
    have hoptional : optionalString fields "label" = .ok (some label) :=
      optionalString_eq_ok_iff.mpr hlabel
    unfold ofCategory
    simp [hoptional, hblank, hmark]

/-- An object is a reference exactly when it is a document entry. -/
theorem ofObject_eq_reference_iff {id : DocumentId} {label : Option String} :
    ofObject fields children = .reference id label ↔ IsDocEntry fields id label := by
  constructor
  · intro hobject
    unfold ofObject at hobject
    split at hobject
    · rename_i htype
      obtain ⟨hid, hblank, hlabel⟩ := ofDocEntry_eq_reference_iff.mp hobject
      exact ⟨htype, hid, hblank, hlabel⟩
    · exact absurd hobject ofCategory_ne_reference
    · simp at hobject
    · simp at hobject
    · split at hobject
      · exact absurd hobject ofCategory_ne_reference
      · simp at hobject
  · intro hentry
    unfold ofObject
    rw [hentry.type_eq]
    exact ofDocEntry_eq_reference_iff.mpr ⟨hentry.id_eq, hentry.id_notBlank, hentry.label_eq⟩

/-- An object is a group exactly when it is a category with a sequence of items. -/
theorem ofObject_eq_group_iff {label : String} {collapsed : Bool} {nodes : List Outline} :
    ofObject fields children = .group label collapsed nodes ↔
      IsCategory fields label collapsed ∧ children = .entries nodes := by
  constructor
  · intro hobject
    have hcategory : (fields.lookup "type" = some (.str "category") ∨ fields.lookup "type" = none) ∧
        ofCategory fields children = .group label collapsed nodes := by
      unfold ofObject at hobject
      split at hobject
      · exact absurd hobject ofDocEntry_ne_group
      · rename_i htype
        exact ⟨.inl htype, hobject⟩
      · simp at hobject
      · simp at hobject
      · rename_i htype
        split at hobject
        · exact ⟨.inr htype, hobject⟩
        · simp at hobject
    obtain ⟨hlabel, hblank, hmark, hchildren⟩ := ofCategory_eq_group_iff.mp hcategory.2
    exact ⟨⟨hcategory.1, hlabel, hblank, collapsedMark_eq_some_iff.mp hmark⟩, hchildren⟩
  · rintro ⟨hcategory, hchildren⟩
    have hgroup : ofCategory fields children = .group label collapsed nodes :=
      ofCategory_eq_group_iff.mpr ⟨hcategory.label_eq, hcategory.label_notBlank,
        collapsedMark_eq_some_iff.mpr hcategory.collapsed_eq, hchildren⟩
    unfold ofObject
    rcases hcategory.type_eq with htype | htype
    · rw [htype]
      exact hgroup
    · rw [htype]
      simpa [hcategory.label_eq] using hgroup

end Fields

mutual

/-- No node at or below the outline is malformed. -/
def Sound : Outline → Prop
  | .reference _ _ => True
  | .group _ _ entries => AllSound entries
  | .malformed _ => False

def AllSound : List Outline → Prop
  | [] => True
  | node :: nodes => node.Sound ∧ AllSound nodes

end

mutual

/-- The item that an outline declares, if it is not malformed. -/
def tree : Outline → List Item
  | .reference id label => [.doc id label]
  | .group label collapsed entries => [.category label collapsed (treeAll entries)]
  | .malformed _ => []

def treeAll : List Outline → List Item
  | [] => []
  | node :: nodes => node.tree ++ treeAll nodes

end

/-- What holds of a group whenever it holds of its entries, and of every other node, holds of every
node. -/
@[elab_as_elim]
theorem nodeInduction {motive : Outline → Prop}
    (reference : ∀ id label, motive (.reference id label))
    (group : ∀ label collapsed entries, (∀ node ∈ entries, motive node) →
      motive (.group label collapsed entries))
    (malformed : ∀ fault, motive (.malformed fault)) : ∀ node, motive node
  | .reference id label => reference id label
  | .group label collapsed entries =>
    group label collapsed entries fun node _ => nodeInduction reference group malformed node
  | .malformed fault => malformed fault

theorem isEmpty_treeAll {nodes : List Outline} (hsound : AllSound nodes) :
    (treeAll nodes).isEmpty = nodes.isEmpty := by
  cases nodes with
  | nil => rfl
  | cons node nodes => cases node <;> simp_all [AllSound, Sound, treeAll, tree]

end Signpost.Outline
