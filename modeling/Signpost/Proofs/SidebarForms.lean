import Signpost.Proofs.NamedSidebars

/-!
# The two forms of a sidebars document

A document with sidebars is a spec or an object that gives names to specs. The two cannot be
confused: an object that can be read as a spec has a text as its type or as its label, and an object
that gives names to specs does not. So nothing that is a spec is taken apart into names, and no name
is lost, whatever it is.
-/

namespace Signpost

namespace Sidebars

variable {s : Sidebars} {fields : List (String × Json)} {v : Json} {registry : Registry}

/-- The sidebars are the entries of an object, with none lost, renamed or changed. -/
def HoldsEntries (s : Sidebars) (fields : List (String × Json)) : Prop :=
  s.specs.entries.Perm fields

/-- There is one sidebar, with the default name and this spec. -/
def IsDefaultOf (s : Sidebars) (spec : Json) : Prop :=
  s.specs.entries = [(defaultName, spec)]

theorem isItem_eq_false_iff :
    isItem fields = false ↔
      Json.textUnder? "type" fields = none ∧ Json.textUnder? "label" fields = none := by
  simp [isItem, Json.textUnder?]

/-- An object that can be read as a spec is taken for an item. -/
theorem isItem_of_parse {parsed : ParsedSpec}
    (hparse : Spec.parse (.obj fields) registry = .ok parsed) : isItem fields = true := by
  have hsound : Outline.AllSound (Outline.ofJsonList [.obj fields]) :=
    (Spec.parse_eq_ok_iff.mp hparse).1
  by_contra hnotItem
  obtain ⟨htype, hlabel⟩ := isItem_eq_false_iff.mp (by simpa using hnotItem)
  rcases Outline.isDocEntry_or_isCategory hsound.1 with
    ⟨id, label, hentry⟩ | ⟨label, collapsed, values, hcategory, -, -⟩
  · rw [Json.textUnder?_of_lookup hentry.type_eq] at htype
    cases htype
  · rw [Json.textUnder?_of_lookup hcategory.label_eq] at hlabel
    cases hlabel

theorem isDefaultOf_ofJson_of_isItem (hitem : isItem fields = true) :
    (ofJson (.obj fields)).IsDefaultOf (.obj fields) := by
  rw [IsDefaultOf, ofJson, if_pos hitem]
  rfl

/-- What can be read as a spec is the only sidebar of its document. -/
theorem isDefaultOf_ofJson_of_parse {parsed : ParsedSpec}
    (hparse : Spec.parse v registry = .ok parsed) : (ofJson v).IsDefaultOf v := by
  cases v with
  | obj fields => exact isDefaultOf_ofJson_of_isItem (isItem_of_parse hparse)
  | str id => rfl
  | arr values => rfl
  | null | bool _ | num _ => cases hparse

/-- An object is never its own only entry. -/
theorem not_holdsEntries_of_isDefaultOf (hitem : isItem fields = true)
    (hdefault : s.IsDefaultOf (.obj fields)) : ¬s.HoldsEntries fields := by
  intro hholds
  rw [HoldsEntries, hdefault, List.singleton_perm] at hholds
  rw [← hholds] at hitem
  exact absurd hitem (by simp [isItem, defaultName, Index.lookup_cons_eq_ite])

/-- An object whose keys are distinct is a map of names exactly if neither its type nor its label is
a text. -/
theorem holdsEntries_ofJson_iff (hnodup : (fields.map (·.1)).Nodup) :
    (ofJson (.obj fields)).HoldsEntries fields ↔
      Json.textUnder? "type" fields = none ∧ Json.textUnder? "label" fields = none := by
  rw [← isItem_eq_false_iff]
  constructor
  · intro hholds
    by_contra hitem
    have hitem : isItem fields = true := by simpa using hitem
    exact not_holdsEntries_of_isDefaultOf hitem (isDefaultOf_ofJson_of_isItem hitem) hholds
  · intro hnotItem
    rw [HoldsEntries, ofJson, hnotItem]
    exact Index.entries_ofList_perm hnodup

/-- Sequences are no texts. -/
theorem textUnder?_eq_none_of_sequences (hsequences : ∀ field ∈ fields, ∃ values, field.2 = .arr values)
    (key : String) : Json.textUnder? key fields = none := by
  rw [Json.textUnder?]
  cases hlookup : fields.lookup key with
  | none => rfl
  | some value =>
      obtain ⟨front, back, hfields, -⟩ := List.lookup_eq_some_iff.mp hlookup
      obtain ⟨values, rfl⟩ : ∃ values, value = .arr values :=
        hsequences (key, value) (by simp [hfields])
      rfl

/-- A sidebar has the navigation of its bare spec, or both have none. -/
theorem resolve_result_eq_ok_iff {name : String} (hget : s.get? name = some v) {policy : Policy}
    {reports : List Unresolved} {nav : Navigation} :
    (s.resolve name registry policy reports).result = .ok nav ↔
      (Navigation.build v registry policy reports).result = .ok nav := by
  have hparse : s.parse name registry =
      (Outline.readUnder name (Spec.parse v registry)).mapError .spec := by
    rw [parse_of_get?_eq_some hget, Spec.parseNamed_eq_readUnder]
  rw [resolve, hparse, Navigation.build]
  cases Spec.parse v registry with
  | error cause => simp [Outline.readUnder, Except.mapError]
  | ok parsed =>
      obtain ⟨added, -, hunder⟩ := Navigation.ofParsed_under name parsed policy reports
      simp only [Outline.readUnder, Except.mapError, hunder]
      cases (Navigation.ofParsed parsed policy reports).result <;> simp [Navigation.outcomeUnder]

/-- **The two forms of a sidebars document are told apart.** What can be read as a spec is one
sidebar, which has the default name and the navigation of the spec. No registry makes a spec of an
object of sequences: whatever its keys, it is a map of names. In general an object is a map of names
exactly if neither its type nor its label is a text. The keys of an object are distinct, as they are
in all objects that were filled key by key. -/
theorem ofJson_unambiguous (v : Json) :
    (∀ registry parsed, Spec.parse v registry = .ok parsed →
      (ofJson v).IsDefaultOf v ∧
        ∀ registry policy reports nav,
          ((ofJson v).resolve defaultName registry policy reports).result = .ok nav ↔
            (Navigation.build v registry policy reports).result = .ok nav) ∧
    (∀ fields, v = .obj fields → (fields.map (·.1)).Nodup →
      ((∀ field ∈ fields, ∃ values, field.2 = .arr values) →
        (ofJson v).HoldsEntries fields ∧
          ∀ registry parsed, Spec.parse v registry ≠ .ok parsed) ∧
      ((ofJson v).HoldsEntries fields ↔
        Json.textUnder? "type" fields = none ∧ Json.textUnder? "label" fields = none)) := by
  constructor
  · intro registry parsed hparse
    have hdefault := isDefaultOf_ofJson_of_parse hparse
    refine ⟨hdefault, fun registry policy reports nav => resolve_result_eq_ok_iff ?_⟩
    rw [get?, Index.get?, hdefault, List.lookup_cons_self]
  · rintro fields rfl hnodup
    refine ⟨fun hsequences => ?_, holdsEntries_ofJson_iff hnodup⟩
    have hnoText := textUnder?_eq_none_of_sequences hsequences
    refine ⟨(holdsEntries_ofJson_iff hnodup).mpr ⟨hnoText _, hnoText _⟩, ?_⟩
    intro registry parsed hparse
    have hnotItem := isItem_eq_false_iff.mpr ⟨hnoText "type", hnoText "label"⟩
    rw [isItem_of_parse hparse] at hnotItem
    cases hnotItem

/-- Sidebars that are named like the fields of an item. -/
def fieldNames : List (String × Json) :=
  [("type", .arr [.str "faq"]), ("label", .arr []), ("items", .arr [.str "intro"])]

theorem ofJson_unambiguous_sample :
    Spec.parse (.obj [("label", .str "Guides"), ("items", .arr [.str "intro"])])
          Spec.sampleRegistry = .ok { items := [.category "Guides" true [.doc "intro" none]] } ∧
      (ofJson (.obj [("label", .str "Guides"), ("items", .arr [.str "intro"])])).IsDefaultOf
        (.obj [("label", .str "Guides"), ("items", .arr [.str "intro"])]) ∧
      (fieldNames.map (·.1)).Nodup ∧ (ofJson (.obj fieldNames)).HoldsEntries fieldNames ∧
      ∀ registry parsed, Spec.parse (.obj fieldNames) registry ≠ .ok parsed := by
  have hparse : Spec.parse (.obj [("label", .str "Guides"), ("items", .arr [.str "intro"])])
      Spec.sampleRegistry = .ok { items := [.category "Guides" true [.doc "intro" none]] } := rfl
  have hnodup : (fieldNames.map (·.1)).Nodup := by decide
  have hsequences : ∀ field ∈ fieldNames, ∃ values, field.2 = .arr values := by
    simp [fieldNames]
  have hdefault := ((ofJson_unambiguous _).1 _ _ hparse).1
  obtain ⟨hholds, hnever⟩ := ((ofJson_unambiguous _).2 fieldNames rfl hnodup).1 hsequences
  exact ⟨hparse, hdefault, hnodup, hholds, hnever⟩

end Sidebars

end Signpost
