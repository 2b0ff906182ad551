import Signpost.Proofs.RegistryContents
import Mathlib.Data.List.Nodup

/-!
# Filling a registry

Documents are registered one after the other. Either no id occurs twice, and the registry then holds
the documents and lists their files, the last one first; or the first document whose id has occurred
before it is the one that is refused.
-/

namespace Signpost.Registry

variable {r next last : Registry} {ds : List Document} {d : Document} {id : DocumentId}

/-- What is listed for a document that was read from a file. -/
def listing (d : Document) : Option (Path × DocumentId) :=
  d.source.map (·, d.id)

/-- The document is the first one whose id is also that of a document before it. -/
def FirstRepeated (ds : List Document) (d : Document) : Prop :=
  ∃ front back, ds = front ++ d :: back ∧ (front.map (·.id)).Nodup ∧ d.id ∈ front.map (·.id)

theorem not_nodup_of_firstRepeated (hrepeated : FirstRepeated ds d) :
    ¬(ds.map (·.id)).Nodup := by
  obtain ⟨front, back, rfl, -, hid⟩ := hrepeated
  intro hnodup
  rw [List.map_append, List.map_cons, List.nodup_append] at hnodup
  exact hnodup.2.2 d.id hid d.id List.mem_cons_self rfl

theorem contains_eq (r : Registry) (id : DocumentId) : r.contains id = (r.get? id).isSome := rfl

theorem get?_eq_none_of_register (hregister : r.register d = .ok next) : r.get? d.id = none := by
  unfold register at hregister
  split at hregister
  · cases hregister
  · rename_i hnot
    simpa [contains_eq] using hnot

theorem get?_of_register (hregister : r.register d = .ok next) (id : DocumentId) :
    next.get? id = if id = d.id then some d else r.get? id := by
  rw [get?, (eq_of_register hregister).1, Index.get?_insert, get?]

theorem eq_of_register_eq_error {cause : RegistryError} (hregister : r.register d = .error cause) :
    r.contains d.id = true ∧ cause = .duplicateId d.id := by
  unfold register at hregister
  split at hregister
  · rename_i hknown
    cases hregister
    exact ⟨hknown, rfl⟩
  · cases hregister

theorem registerAll_cons_eq_ok_iff :
    r.registerAll (d :: ds) = .ok last ↔
      ∃ next, r.register d = .ok next ∧ next.registerAll ds = .ok last := by
  rw [registerAll]
  cases r.register d <;> simp

/-! ### All documents registered -/

/-- Under an id is what the registry held before, or the document that was registered with it. -/
theorem get?_of_registerAll (hregister : r.registerAll ds = .ok last) (id : DocumentId) :
    last.get? id = (r.get? id).or (ds.find? fun d => d.id = id) := by
  induction ds generalizing r with
  | nil =>
      cases hregister
      simp
  | cons d ds ih =>
      obtain ⟨next, hnext, hrest⟩ := registerAll_cons_eq_ok_iff.mp hregister
      rw [ih hrest, get?_of_register hnext, List.find?_cons]
      by_cases hid : id = d.id
      · have hnew := get?_eq_none_of_register hnext
        subst hid
        simp [hnew]
      · simp [hid, Ne.symm hid]

theorem sources_of_registerAll (hregister : r.registerAll ds = .ok last) :
    last.sources = (ds.filterMap listing).reverse ++ r.sources := by
  induction ds generalizing r with
  | nil =>
      cases hregister
      rfl
  | cons d ds ih =>
      obtain ⟨next, hnext, hrest⟩ := registerAll_cons_eq_ok_iff.mp hregister
      rw [ih hrest, (eq_of_register hnext).2]
      cases hsource : d.source <;> simp [listing, hsource]

/-- No two documents had one id, and none had the id of a document that was there before. -/
theorem nodup_of_registerAll (hregister : r.registerAll ds = .ok last) :
    (ds.map (·.id)).Nodup ∧ ∀ d ∈ ds, r.get? d.id = none := by
  induction ds generalizing r with
  | nil => simp
  | cons d ds ih =>
      obtain ⟨next, hnext, hrest⟩ := registerAll_cons_eq_ok_iff.mp hregister
      obtain ⟨hnodup, hnew⟩ := ih hrest
      have hother : ∀ e ∈ ds, e.id ≠ d.id ∧ r.get? e.id = none := by
        intro e he
        have hnone := hnew e he
        rw [get?_of_register hnext] at hnone
        by_cases hid : e.id = d.id
        · simp [hid] at hnone
        · exact ⟨hid, by simpa [hid] using hnone⟩
      rw [List.map_cons, List.nodup_cons]
      refine ⟨⟨?_, hnodup⟩, ?_⟩
      · intro hmem
        obtain ⟨e, he, hid⟩ := List.mem_map.mp hmem
        exact (hother e he).1 hid
      · intro e he
        rcases List.mem_cons.mp he with rfl | he
        · exact get?_eq_none_of_register hnext
        · exact (hother e he).2

theorem find?_id_eq_some_iff (hnodup : (ds.map (·.id)).Nodup) :
    ds.find? (fun d => d.id = id) = some d ↔ d ∈ ds ∧ d.id = id := by
  constructor
  · intro hfind
    exact ⟨List.mem_of_find?_eq_some hfind, by simpa using List.find?_some hfind⟩
  · rintro ⟨hd, rfl⟩
    obtain ⟨e, he⟩ : ∃ e, ds.find? (fun e => e.id = d.id) = some e :=
      Option.isSome_iff_exists.mp (List.find?_isSome.mpr ⟨d, hd, by simp⟩)
    have hmem := List.mem_of_find?_eq_some he
    have hid : e.id = d.id := by simpa using List.find?_some he
    rw [he, List.inj_on_of_nodup_map hnodup hmem hd hid]

theorem get?_eq_some_iff_of_ofDocuments (hregister : ofDocuments ds = .ok r) :
    r.get? id = some d ↔ d ∈ ds ∧ d.id = id := by
  have hget := get?_of_registerAll hregister id
  have hempty : empty.get? id = none := rfl
  rw [hempty, Option.none_or] at hget
  rw [hget, find?_id_eq_some_iff (nodup_of_registerAll hregister).1]

theorem Consistent.mem_all_iff (hr : r.Consistent) : d ∈ r.all ↔ r.get? d.id = some d := by
  rw [get?, Index.get?_eq_some_iff, Registry.mem_all_iff]
  constructor
  · rintro ⟨entry, hentry, rfl⟩
    rwa [← hr.key_eq entry hentry]
  · intro hentry
    exact ⟨(d.id, d), hentry, rfl⟩

/-- A registry filled with documents holds these and no others. -/
theorem mem_all_iff_of_ofDocuments (hregister : ofDocuments ds = .ok r) : d ∈ r.all ↔ d ∈ ds := by
  rw [(consistent_empty.registerAll hregister).mem_all_iff,
    get?_eq_some_iff_of_ofDocuments hregister, and_iff_left rfl]

theorem mem_sources_iff_of_ofDocuments (hregister : ofDocuments ds = .ok r) {path : Path} :
    (path, id) ∈ r.sources ↔ ∃ d ∈ ds, d.source = some path ∧ d.id = id := by
  have hempty : empty.sources = [] := rfl
  rw [sources_of_registerAll hregister, hempty, List.append_nil, List.mem_reverse,
    List.mem_filterMap]
  simp [listing]

/-! ### A document refused -/

/-- A document is refused after those before it have been registered. -/
theorem exists_refused_of_registerAll {cause : RegistryError}
    (hregister : r.registerAll ds = .error cause) :
    ∃ front d back mid, ds = front ++ d :: back ∧ r.registerAll front = .ok mid ∧
      mid.contains d.id = true ∧ cause = .duplicateId d.id := by
  induction ds generalizing r with
  | nil => cases hregister
  | cons d ds ih =>
      rw [registerAll] at hregister
      cases hnext : r.register d with
      | error first =>
          rw [hnext] at hregister
          obtain ⟨hknown, rfl⟩ := eq_of_register_eq_error hnext
          cases hregister
          exact ⟨[], d, ds, r, rfl, rfl, hknown, rfl⟩
      | ok next =>
          rw [hnext] at hregister
          obtain ⟨front, refused, back, mid, rfl, hfront, hknown, hcause⟩ := ih hregister
          exact ⟨d :: front, refused, back, mid, rfl,
            registerAll_cons_eq_ok_iff.mpr ⟨next, hnext, hfront⟩, hknown, hcause⟩

theorem exists_firstRepeated_of_ofDocuments {cause : RegistryError}
    (hregister : ofDocuments ds = .error cause) :
    ∃ d, FirstRepeated ds d ∧ cause = .duplicateId d.id := by
  obtain ⟨front, d, back, mid, rfl, hfront, hknown, rfl⟩ := exists_refused_of_registerAll hregister
  obtain ⟨e, he⟩ := Option.isSome_iff_exists.mp hknown
  obtain ⟨hmem, hid⟩ := (get?_eq_some_iff_of_ofDocuments hfront).mp he
  have hrepeated : d.id ∈ front.map (·.id) := List.mem_map.mpr ⟨e, hmem, hid⟩
  exact ⟨d, ⟨front, back, rfl, (nodup_of_registerAll hfront).1, hrepeated⟩, rfl⟩

end Signpost.Registry
