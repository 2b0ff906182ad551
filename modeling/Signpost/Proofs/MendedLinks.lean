import Signpost.Proofs.RegistrationOrder

/-!
# Links after a registration

A new document breaks no link, and it mends those that lead to its file or to its id. The other
broken links are reported as before and in the same order. The file of the new document may have
been that of an older one, which is found by it no longer. But a link is only asked whether it leads
anywhere, and so this makes no difference to it.
-/

namespace Signpost

namespace Index

variable {α : Type} {entries : List (String × α)}

/-- Nothing is changed under other keys, and nothing is moved. -/
theorem filter_insertEntry (key : String) (value : α) :
    (insertEntry key value entries).filter (fun entry => entry.1 ≠ key) =
      entries.filter fun entry => entry.1 ≠ key := by
  induction entries with
  | nil => simp [insertEntry]
  | cons entry entries ih =>
      obtain ⟨k, v⟩ := entry
      unfold insertEntry
      split
      · simp
      · split
        · rename_i heq
          subst heq
          simp
        · simp only [List.filter_cons, ih]

end Index

namespace Registry

variable {r next : Registry} {d : Document}

/-- The documents that were there before are listed in the same order. -/
theorem filter_all_of_register (hr : r.Consistent) (hregister : r.register d = .ok next) :
    next.all.filter (fun e => e.id ≠ d.id) = r.all := by
  have hdocuments := (eq_of_register hregister).1
  have hkey (index : Registry) (hindex : index.Consistent) :
      index.all.filter (fun e => e.id ≠ d.id) =
        (index.documents.entries.filter fun entry => entry.1 ≠ d.id).map (·.2) := by
    rw [all, Index.values, List.filter_map]
    congr 1
    apply List.filter_congr
    intro entry hentry
    rw [hindex.key_eq entry hentry]
    rfl
  have hnew : ∀ e ∈ r.all, decide (e.id ≠ d.id) = true := by
    intro e he
    apply decide_eq_true
    intro hid
    have hget := hr.mem_all_iff.mp he
    rw [hid, get?_eq_none_of_register hregister] at hget
    cases hget
  calc next.all.filter (fun e => e.id ≠ d.id)
      = (next.documents.entries.filter fun entry => entry.1 ≠ d.id).map (·.2) :=
        hkey next (hr.register hregister)
    _ = (r.documents.entries.filter fun entry => entry.1 ≠ d.id).map (·.2) := by
        rw [hdocuments, Index.insert, Index.filter_insertEntry]
    _ = r.all.filter (fun e => e.id ≠ d.id) := (hkey r hr).symm
    _ = r.all := List.filter_eq_self.mpr hnew

theorem isSome_findBySource?_of_register (hregister : r.register d = .ok next) (path : Path) :
    (next.findBySource? path).isSome = true ↔
      d.isAt path = true ∨ (r.findBySource? path).isSome = true := by
  have hsources := (eq_of_register hregister).2
  rw [findBySource?, findBySource?, hsources, Option.isSome_map, Option.isSome_map]
  cases hsource : d.source <;> simp [Document.isAt, hsource, List.find?_isSome]

end Registry

namespace Link

/-- A link that leads nowhere: the document that it stands in, and the path that it names. -/
structure Broken where
  holder : DocumentId
  target : String
deriving DecidableEq, Repr

def Broken.report (b : Broken) : Unresolved :=
  ⟨conventionalId b.target, .link b.holder⟩

/-- The links of a document that lead nowhere, as they are written. -/
def brokenOf (r : Registry) (d : Document) : List Broken :=
  ((d.links.filterMap (target? d)).filter fun target => (resolve? r target).isNone).map
    fun target => ⟨d.id, target⟩

/-- All links that lead nowhere, in the order in which they are reported. -/
def broken (r : Registry) : List Broken :=
  r.all.flatMap (brokenOf r)

variable {r next : Registry} {d : Document}

theorem filterMap_checkLink (r : Registry) (d : Document) :
    d.links.filterMap (checkLink r d) = (brokenOf r d).map Broken.report := by
  unfold brokenOf
  induction d.links with
  | nil => rfl
  | cons link links ih =>
      cases htarget : target? d link with
      | none => simp [checkLink, htarget, ih]
      | some target =>
          cases hresolve : resolve? r target <;>
            simp [checkLink, htarget, hresolve, ih, Broken.report]

theorem check_eq_map_report (r : Registry) : check r = (broken r).map Broken.report := by
  rw [check, broken, List.map_flatMap]
  apply List.flatMap_congr
  intro d _
  exact filterMap_checkLink r d

/-- A new document is found by its file and by its id, and what was found before still is. -/
theorem isSome_resolve?_of_register (hregister : r.register d = .ok next) (target : String) :
    (resolve? next target).isSome = true ↔
      d.isAt ⟨target⟩ = true ∨ conventionalId target = d.id ∨
        (resolve? r target).isSome = true := by
  rw [isSome_resolve?_iff, isSome_resolve?_iff, Registry.isSome_findBySource?_of_register hregister,
    Registry.contains_eq, Registry.contains_eq, Registry.get?_of_register hregister]
  by_cases hid : conventionalId target = d.id
  · simp [hid]
  · simp only [hid, if_false, false_or]
    exact or_assoc

/-- What a document has left after another one was registered. -/
theorem brokenOf_of_register (hregister : r.register d = .ok next) (e : Document) :
    brokenOf next e = (brokenOf r e).filter fun b =>
      ¬(d.isAt ⟨b.target⟩ = true ∨ conventionalId b.target = d.id) := by
  rw [brokenOf, brokenOf, List.filter_map, List.filter_filter]
  congr 1
  apply List.filter_congr
  intro target _
  have hsome := isSome_resolve?_of_register hregister target
  rw [Bool.eq_iff_iff, ← Option.not_isSome, ← Option.not_isSome, Bool.not_eq_true',
    ← Bool.not_eq_true, hsome]
  simp [and_assoc]

theorem filter_broken (r : Registry) (id : DocumentId) :
    (broken r).filter (fun b => b.holder ≠ id) =
      (r.all.filter fun e => e.id ≠ id).flatMap (brokenOf r) := by
  rw [broken, List.filter_flatMap]
  induction r.all with
  | nil => rfl
  | cons e es ih =>
      rw [List.flatMap_cons, ih, List.filter_cons, brokenOf, List.filter_map]
      by_cases hid : e.id = id
      · simp [hid, Function.comp_def]
      · simp [hid, Function.comp_def, brokenOf]

/-- The reports of the older documents after a registration. -/
theorem filter_check_of_register (hr : r.Consistent) (hregister : r.register d = .ok next) :
    (check next).filter (fun u => u.origin ≠ .link d.id) =
      ((broken r).filter fun b =>
        ¬(d.isAt ⟨b.target⟩ = true ∨ conventionalId b.target = d.id)).map Broken.report := by
  have horigin : (fun u : Unresolved => decide (u.origin ≠ .link d.id)) ∘ Broken.report =
      fun b => decide (b.holder ≠ d.id) := by
    funext b
    simp [Broken.report]
  calc (check next).filter (fun u => u.origin ≠ .link d.id)
      = ((broken next).filter fun b => b.holder ≠ d.id).map Broken.report := by
        rw [check_eq_map_report, List.filter_map, horigin]
    _ = (r.all.flatMap (brokenOf next)).map Broken.report := by
        rw [filter_broken, Registry.filter_all_of_register hr hregister]
    _ = ((broken r).filter fun b =>
          ¬(d.isAt ⟨b.target⟩ = true ∨ conventionalId b.target = d.id)).map Broken.report := by
        rw [broken, List.filter_flatMap, funext (brokenOf_of_register hregister)]

theorem contains_eq_false_of_mem_check {u : Unresolved} (hu : u ∈ check r) :
    r.contains u.id = false := by
  rw [check_eq_map_report, List.mem_map] at hu
  obtain ⟨b, hb, rfl⟩ := hu
  obtain ⟨e, -, hbroken⟩ := List.mem_flatMap.mp hb
  obtain ⟨target, htarget, rfl⟩ := List.mem_map.mp hbroken
  have hnone := (List.mem_filter.mp htarget).2
  rw [← Option.not_isSome, Bool.not_eq_true', ← Bool.not_eq_true, isSome_resolve?_iff] at hnone
  simpa [Broken.report] using fun hknown => hnone (.inr hknown)

/-- **A new document breaks no link.** After any run of registrations, a document with a new id can
be registered. What is reported for the older documents is then what was reported before, in the
same order, without the links that lead to the file of the new document or would be reported with
its id. In no registry is a link reported with the id of a registered document. -/
theorem check_of_register {offered : List Document} (hr : Registry.empty.offerAll offered = r)
    (hnew : r.contains d.id = false) :
    ∃ next, r.register d = .ok next ∧ check r = (broken r).map Broken.report ∧
      (check next).filter (fun u => u.origin ≠ .link d.id) =
        ((broken r).filter fun b =>
          ¬(d.isAt ⟨b.target⟩ = true ∨ b.report.id = d.id)).map Broken.report ∧
      (∀ u ∈ check next, u.origin ≠ .link d.id → u ∈ check r) ∧
      ∀ other : Registry, ∀ u ∈ check other, other.contains u.id = false := by
  have hconsistent : r.Consistent := by
    rw [← hr]
    exact Registry.consistent_empty.registerAll (Registry.registerAll_accepted _ offered)
  obtain ⟨next, hregister⟩ := Registry.exists_register_of_not_contains hnew
  have hleft := filter_check_of_register hconsistent hregister
  refine ⟨next, hregister, check_eq_map_report r, hleft, fun u hu horigin => ?_, fun other u hu => ?_⟩
  · have hmem : u ∈ (check next).filter fun u => u.origin ≠ .link d.id :=
      List.mem_filter.mpr ⟨hu, decide_eq_true horigin⟩
    rw [hleft] at hmem
    rw [check_eq_map_report]
    exact (List.filter_sublist.map Broken.report).subset hmem
  · exact contains_eq_false_of_mem_check hu

/-- Two documents in a folder, one of them with a link to the other and with three that lead
nowhere. -/
def incomplete : List Document :=
  [⟨"a", "A", some ⟨"c/a.md"⟩, ["y.md", "../z.md#t", "b.md", "w.md"]⟩,
    ⟨"b", "B", some ⟨"c/b.md"⟩, []⟩]

/-- Its file, written in another way, is the target of one link, and its id is that of another. -/
def newcomer : Document :=
  ⟨"z", "Z", some ⟨"c/.//y.md"⟩, ["v.md"]⟩

theorem check_of_register_sample :
    ∃ r next, Registry.empty.offerAll incomplete = r ∧ r.contains newcomer.id = false ∧
      r.register newcomer = .ok next ∧
      check r = [⟨"c/y", .link "a"⟩, ⟨"z", .link "a"⟩, ⟨"c/w", .link "a"⟩] ∧
      (check next).filter (fun u => u.origin ≠ .link newcomer.id) = [⟨"c/w", .link "a"⟩] := by
  have hnew : (Registry.empty.offerAll incomplete).contains newcomer.id = false := by decide
  obtain ⟨next, hregister, hcheck, hleft, -, -⟩ := check_of_register rfl hnew
  exact ⟨_, next, rfl, hnew, hregister, hcheck.trans (by decide), hleft.trans (by decide)⟩

end Link

end Signpost
