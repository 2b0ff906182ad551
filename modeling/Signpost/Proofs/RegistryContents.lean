import Signpost.Registry
import Signpost.Proofs.IndexLookup

/-!
# What a registry holds

A registry that was filled by registering documents holds no other documents, each of them under its
own id, and it finds each of them by its file. The file of a document may lead to another document
that was registered later with the same file, but it leads to one.
-/

namespace Signpost

theorem Path.same_refl (p : Path) : p.same p = true :=
  beq_self_eq_true p.components

namespace Registry

/-- Every document is held under its own id and is listed with its file. -/
structure Consistent (r : Registry) : Prop where
  key_eq : ∀ entry ∈ r.documents.entries, entry.1 = entry.2.id
  listed : ∀ d ∈ r.all, ∀ path, d.source = some path → (path, d.id) ∈ r.sources

theorem consistent_empty : empty.Consistent where
  key_eq := by simp [empty, Index.empty]
  listed := by simp [empty, all, Index.values, Index.empty]

theorem mem_all_iff {r : Registry} {d : Document} :
    d ∈ r.all ↔ ∃ entry ∈ r.documents.entries, entry.2 = d :=
  List.mem_map

theorem eq_of_register {r next : Registry} {d : Document} (hregister : r.register d = .ok next) :
    next.documents = r.documents.insert d.id d ∧
      next.sources = (d.source.map (·, d.id)).toList ++ r.sources := by
  unfold register at hregister
  split at hregister
  · cases hregister
  · cases hregister
    cases d.source <;> exact ⟨rfl, rfl⟩

/-- Registering a document adds no other one. -/
theorem mem_all_of_register {r next : Registry} {d e : Document}
    (hregister : r.register d = .ok next) (he : e ∈ next.all) : e = d ∨ e ∈ r.all := by
  obtain ⟨entry, hentry, rfl⟩ := mem_all_iff.mp he
  rw [(eq_of_register hregister).1] at hentry
  rcases Index.mem_insertEntry hentry with rfl | hold
  · exact .inl rfl
  · exact .inr (mem_all_iff.mpr ⟨entry, hold, rfl⟩)

theorem Consistent.register {r next : Registry} {d : Document} (hr : r.Consistent)
    (hregister : r.register d = .ok next) : next.Consistent := by
  obtain ⟨hdocuments, hsources⟩ := eq_of_register hregister
  refine ⟨fun entry hentry => ?_, fun e he path hsource => ?_⟩
  · rw [hdocuments] at hentry
    rcases Index.mem_insertEntry hentry with rfl | hold
    · rfl
    · exact hr.key_eq entry hold
  · rw [hsources, List.mem_append]
    rcases mem_all_of_register hregister he with rfl | hold
    · exact .inl (by simp [hsource])
    · exact .inr (hr.listed e hold path hsource)

theorem mem_all_of_registerAll {r last : Registry} {ds : List Document} {e : Document}
    (hregister : r.registerAll ds = .ok last) (he : e ∈ last.all) : e ∈ ds ∨ e ∈ r.all := by
  induction ds generalizing r with
  | nil =>
      cases hregister
      exact .inr he
  | cons d ds ih =>
      rw [registerAll] at hregister
      cases hnext : r.register d with
      | error e => simp [hnext] at hregister
      | ok next =>
          rw [hnext] at hregister
          rcases ih hregister with hmem | hmem
          · exact .inl (List.mem_cons_of_mem d hmem)
          · rcases mem_all_of_register hnext hmem with rfl | hold
            · exact .inl List.mem_cons_self
            · exact .inr hold

theorem Consistent.registerAll {r last : Registry} {ds : List Document} (hr : r.Consistent)
    (hregister : r.registerAll ds = .ok last) : last.Consistent := by
  induction ds generalizing r with
  | nil =>
      cases hregister
      exact hr
  | cons d ds ih =>
      rw [Registry.registerAll] at hregister
      cases hnext : r.register d with
      | error e => simp [hnext] at hregister
      | ok next =>
          rw [hnext] at hregister
          exact ih (hr.register hnext) hregister

/-- Two documents of a registry with one id are one document. -/
theorem Consistent.eq_of_id_eq {r : Registry} (hr : r.Consistent) {d e : Document} (hd : d ∈ r.all)
    (he : e ∈ r.all) (hid : d.id = e.id) : d = e := by
  obtain ⟨first, hfirst, rfl⟩ := mem_all_iff.mp hd
  obtain ⟨second, hsecond, rfl⟩ := mem_all_iff.mp he
  have hkeys : first.1 = second.1 := by
    rw [hr.key_eq first hfirst, hr.key_eq second hsecond, hid]
  rw [List.inj_on_of_nodup_map (Index.nodup_keys r.documents) hfirst hsecond hkeys]

theorem Consistent.isSome_findBySource? {r : Registry} (hr : r.Consistent) {d : Document}
    (hd : d ∈ r.all) {path : Path} (hsource : d.source = some path) :
    (r.findBySource? path).isSome = true := by
  rw [findBySource?, Option.isSome_map, List.find?_isSome]
  exact ⟨(path, d.id), hr.listed d hd path hsource, path.same_refl⟩

/-- A registry filled from a supplier holds only what was supplied. -/
theorem consistent_ofSource {supply : Except SourceError (List Document)} {r : Registry}
    (hr : ofSource supply = .ok r) :
    r.Consistent ∧ ∃ ds, supply = .ok ds ∧ ∀ d ∈ r.all, d ∈ ds := by
  cases supply with
  | error e => cases hr
  | ok ds =>
      refine ⟨consistent_empty.registerAll hr, ds, rfl, fun d hd => ?_⟩
      rcases mem_all_of_registerAll hr hd with hmem | hmem
      · exact hmem
      · cases hmem

end Registry

end Signpost
