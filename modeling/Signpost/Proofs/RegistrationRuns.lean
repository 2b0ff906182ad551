import Signpost.Proofs.FilledRegistry
import Mathlib.Data.List.Basic

/-!
# Runs of registrations

Documents are offered to a registry one after the other, and some of them are refused. What the
registry answers afterwards can be said without it: under an id is the first document that was
offered with it, and a file leads to the last of the accepted documents that were read from it. A
refused document leaves no trace, neither under its id nor under its file.
-/

namespace Signpost

/-- The document was read from the file at a path, whichever way the path is written. -/
def Document.isAt (path : Path) (d : Document) : Bool :=
  d.source.any fun source => source.same path

namespace Registry

variable {r last : Registry} {ds : List Document} {d : Document}

/-- The registry after a document was offered: a refused one leaves it as it was. -/
def offer (r : Registry) (d : Document) : Registry :=
  match r.register d with
  | .ok next => next
  | .error _ => r

def offerAll (r : Registry) (ds : List Document) : Registry :=
  ds.foldl offer r

/-- The documents that are accepted when they are offered one after the other. -/
def accepted (r : Registry) : List Document → List Document
  | [] => []
  | d :: ds =>
    match r.register d with
    | .ok next => d :: next.accepted ds
    | .error _ => r.accepted ds

theorem register_of_contains (hknown : r.contains d.id = true) :
    r.register d = .error (.duplicateId d.id) := by
  rw [register, if_pos hknown]

theorem exists_register_of_not_contains (hnew : r.contains d.id = false) :
    ∃ next, r.register d = .ok next := by
  rw [register, if_neg (by simp [hnew])]
  exact ⟨_, rfl⟩

theorem offer_of_contains (hknown : r.contains d.id = true) : r.offer d = r := by
  rw [offer, register_of_contains hknown]

/-- An offered document counts only if there is none with its id. -/
theorem get?_offer (r : Registry) (d : Document) (id : DocumentId) :
    (r.offer d).get? id = (r.get? id).or (if d.id = id then some d else none) := by
  unfold offer
  cases hregister : r.register d with
  | ok next =>
      rw [get?_of_register hregister]
      by_cases hid : id = d.id
      · subst hid
        simp [get?_eq_none_of_register hregister]
      · simp [hid, Ne.symm hid]
  | error cause =>
      obtain ⟨hknown, -⟩ := eq_of_register_eq_error hregister
      by_cases hid : d.id = id
      · subst hid
        obtain ⟨first, hfirst⟩ := Option.isSome_iff_exists.mp hknown
        rw [← get?] at hfirst
        simp [hfirst]
      · simp [hid]

theorem get?_offerAll (r : Registry) (ds : List Document) (id : DocumentId) :
    (r.offerAll ds).get? id = (r.get? id).or (ds.find? fun d => d.id = id) := by
  induction ds generalizing r with
  | nil => simp [offerAll]
  | cons d ds ih =>
      have hstep : r.offerAll (d :: ds) = (r.offer d).offerAll ds := rfl
      rw [hstep, ih, get?_offer, Option.or_assoc, List.find?_cons]
      by_cases hid : d.id = id <;> simp [hid]

/-- A run with refusals ends as one in which the accepted documents are registered, and none of them
is refused. -/
theorem registerAll_accepted (r : Registry) (ds : List Document) :
    r.registerAll (r.accepted ds) = .ok (r.offerAll ds) := by
  induction ds generalizing r with
  | nil => rfl
  | cons d ds ih =>
      have hstep : r.offerAll (d :: ds) = (r.offer d).offerAll ds := rfl
      rw [hstep, accepted, offer]
      cases hregister : r.register d with
      | ok next => exact registerAll_cons_eq_ok_iff.mpr ⟨next, hregister, ih next⟩
      | error cause => exact ih r

/-! ### What a filled registry holds -/

theorem pairwise_ids (r : Registry) : r.ids.Pairwise (· < ·) :=
  List.pairwise_map.mpr r.documents.sorted

theorem Consistent.map_id_all (hr : r.Consistent) : r.all.map (·.id) = r.ids := by
  rw [all, ids, Index.values, Index.keys, List.map_map]
  exact List.map_congr_left fun entry hentry => (hr.key_eq entry hentry).symm

theorem perm_all_of_ofDocuments (hregister : ofDocuments ds = .ok r) : r.all.Perm ds := by
  have hids : (r.all.map (·.id)).Nodup := by
    rw [(consistent_empty.registerAll hregister).map_id_all]
    exact Index.nodup_keys r.documents
  have hnodup : ds.Nodup := (nodup_of_registerAll hregister).1.of_map
  rw [List.perm_ext_iff_of_nodup hids.of_map hnodup]
  exact fun d => mem_all_iff_of_ofDocuments hregister

/-- A file leads to the last of the documents that were read from it. -/
theorem findBySource?_of_ofDocuments_eq (hregister : ofDocuments ds = .ok r) (path : Path) :
    r.findBySource? path = (ds.filter (Document.isAt path)).getLast?.map (·.id) := by
  have hlisted : r.sources = ds.reverse.filterMap listing := by
    have hempty : empty.sources = [] := rfl
    rw [sources_of_registerAll hregister, hempty, List.append_nil, List.filterMap_reverse]
  have hat : (fun d => (listing d).any fun entry => entry.1.same path) = Document.isAt path := by
    funext d
    cases hsource : d.source <;> simp [listing, Document.isAt, hsource]
  rw [findBySource?, hlisted, List.find?_filterMap, hat, List.getLast?_eq_head?_reverse,
    ← List.filter_reverse, List.head?_filter]
  cases hfind : ds.reverse.find? (Document.isAt path) with
  | none => rfl
  | some d =>
      obtain ⟨source, hsource, -⟩ : ∃ source, d.source = some source ∧ source.same path = true := by
        simpa [Document.isAt, Option.any_eq_true] using List.find?_some hfind
      simp [listing, hsource]

theorem isSome_findBySource?_iff (hregister : ofDocuments ds = .ok r) {path : Path} :
    (r.findBySource? path).isSome = true ↔ ∃ d ∈ ds, d.isAt path = true := by
  rw [findBySource?_of_ofDocuments_eq hregister, Option.isSome_map, List.getLast?_isSome, Ne,
    List.filter_eq_nil_iff]
  simp

/-! ### The answers after a run -/

/-- **Both indexes stay in step over any run of registrations.** Under an id is the first document
that was offered with it. A file leads to the last of the accepted documents that were read from it,
it leads somewhere exactly if a registered document was, and then to a registered one. A document is
refused exactly if its id has been offered before, and what follows is as if it had never been
offered. Ids are listed in increasing order, documents in the order of their ids, and there are as
many of them as were accepted. -/
theorem answers_of_offerAll (ds : List Document) :
    (∀ id, (empty.offerAll ds).get? id = ds.find? fun d => d.id = id) ∧
    (∀ id, (empty.offerAll ds).contains id = true ↔ ∃ d ∈ ds, d.id = id) ∧
    (∀ path, (empty.offerAll ds).findBySource? path =
      ((empty.accepted ds).filter (Document.isAt path)).getLast?.map (·.id)) ∧
    (∀ path, ((empty.offerAll ds).findBySource? path).isSome = true ↔
      ∃ d ∈ (empty.offerAll ds).all, d.isAt path = true) ∧
    (∀ path id, (empty.offerAll ds).findBySource? path = some id →
      ∃ d, (empty.offerAll ds).get? id = some d ∧ d.isAt path = true) ∧
    (∀ d, (∃ e ∈ ds, e.id = d.id) →
      (empty.offerAll ds).register d = .error (.duplicateId d.id) ∧
        ∀ later, empty.offerAll (ds ++ d :: later) = empty.offerAll (ds ++ later)) ∧
    (∀ d, (∀ e ∈ ds, e.id ≠ d.id) → ∃ next, (empty.offerAll ds).register d = .ok next) ∧
    (empty.offerAll ds).ids.Pairwise (· < ·) ∧
    (empty.offerAll ds).all.map (·.id) = (empty.offerAll ds).ids ∧
    (empty.offerAll ds).size = (empty.accepted ds).length := by
  have hregister : ofDocuments (empty.accepted ds) = .ok (empty.offerAll ds) :=
    registerAll_accepted empty ds
  have hget (id : DocumentId) :
      (empty.offerAll ds).get? id = ds.find? fun d => d.id = id := by
    rw [get?_offerAll]
    exact Option.none_or
  have hcontains (id : DocumentId) :
      (empty.offerAll ds).contains id = true ↔ ∃ d ∈ ds, d.id = id := by
    rw [contains_eq, hget, List.find?_isSome]
    simp
  have hfind := findBySource?_of_ofDocuments_eq hregister
  have hperm := perm_all_of_ofDocuments hregister
  have hsize : (empty.offerAll ds).size = (empty.offerAll ds).all.length := (List.length_map _).symm
  refine ⟨hget, hcontains, hfind, ?_, ?_, ?_, ?_, pairwise_ids _,
    (consistent_empty.registerAll hregister).map_id_all, hsize.trans hperm.length_eq⟩
  · intro path
    rw [isSome_findBySource?_iff hregister]
    simp only [hperm.mem_iff]
  · intro path id hid
    rw [hfind] at hid
    obtain ⟨d, hd, rfl⟩ := Option.map_eq_some_iff.mp hid
    have hmem := List.mem_of_getLast? hd
    obtain ⟨haccepted, hat⟩ := List.mem_filter.mp hmem
    exact ⟨d, (get?_eq_some_iff_of_ofDocuments hregister).mpr ⟨haccepted, rfl⟩, hat⟩
  · intro d hrepeated
    have hknown := (hcontains d.id).mpr hrepeated
    refine ⟨register_of_contains hknown, fun later => ?_⟩
    have hstep : empty.offerAll (ds ++ d :: later) =
        ((empty.offerAll ds).offer d).offerAll later := by
      rw [offerAll, List.foldl_append]
      rfl
    rw [hstep, offer_of_contains hknown, offerAll, offerAll, offerAll, List.foldl_append]
  · intro d hnew
    apply exists_register_of_not_contains
    rw [← Bool.not_eq_true, hcontains]
    rintro ⟨e, he, hid⟩
    exact hnew e he hid

/-- Documents of which the third one is refused; the file of the second one is that of the last one,
written in another way. -/
def offered : List Document :=
  [⟨"a", "First", some ⟨"x.md"⟩, []⟩, ⟨"b", "Other", some ⟨"d/y.md"⟩, []⟩,
    ⟨"a", "Second", some ⟨"z.md"⟩, []⟩, ⟨"c", "Third", some ⟨"d//./y.md"⟩, []⟩]

theorem answers_of_offerAll_sample :
    (empty.offerAll offered).get? "a" = some ⟨"a", "First", some ⟨"x.md"⟩, []⟩ ∧
      (empty.offerAll offered).findBySource? ⟨"d/y.md"⟩ = some "c" ∧
      (empty.offerAll offered).findBySource? ⟨"z.md"⟩ = none ∧
      (empty.offerAll offered).register ⟨"b", "Again", some ⟨"x.md"⟩, []⟩ =
        .error (.duplicateId "b") ∧
      (empty.offerAll offered).size = 3 := by
  obtain ⟨hget, -, hfind, -, -, hrefused, -, -, -, hsize⟩ := answers_of_offerAll offered
  have hrepeated : ∃ e ∈ offered, e.id = "b" := by decide
  exact ⟨(hget "a").trans (by decide), (hfind ⟨"d/y.md"⟩).trans (by decide),
    (hfind ⟨"z.md"⟩).trans (by decide), (hrefused ⟨"b", "Again", some ⟨"x.md"⟩, []⟩ hrepeated).1,
    hsize.trans (by decide)⟩

end Registry

end Signpost
