import Signpost.Link
import Signpost.Sidebars
import Signpost.Proofs.RegistrationRuns

/-!
# The order of registration

Registries filled with the same documents in different orders hold the same documents. They differ
in one answer only: to which of several documents with one file this file leads. That it leads to a
document at all is everything that the check of links asks for, so nothing that is made of a
registry shows in which order it was filled.
-/

namespace Signpost

/-- A path leads somewhere if there is a document with this file or one with its conventional id. -/
theorem Link.isSome_resolve?_iff {r : Registry} {target : String} :
    (resolve? r target).isSome = true ↔
      (r.findBySource? ⟨target⟩).isSome = true ∨ r.contains (conventionalId target) = true := by
  unfold resolve?
  cases hfind : r.findBySource? ⟨target⟩ <;> simp [Registry.contains_eq]

namespace Registry

variable {r r' : Registry} {ds others : List Document}

theorem exists_of_nodup_ids (hids : (ds.map (·.id)).Nodup) : ∃ r, ofDocuments ds = .ok r := by
  cases hregister : ofDocuments ds with
  | ok r => exact ⟨r, rfl⟩
  | error cause =>
      obtain ⟨d, ⟨front, back, rfl, -, hrepeated⟩, -⟩ :=
        exists_firstRepeated_of_ofDocuments hregister
      rw [List.map_append, List.map_cons, List.nodup_append] at hids
      exact absurd rfl (hids.2.2 d.id hrepeated d.id List.mem_cons_self)

/-- The registries hold the same documents, and the same files lead to a document. -/
structure Alike (r r' : Registry) : Prop where
  documents_eq : r.documents = r'.documents
  isSome_findBySource?_eq :
    ∀ path, (r.findBySource? path).isSome = (r'.findBySource? path).isSome

theorem documents_eq_of_perm (hperm : ds.Perm others) (hregister : ofDocuments ds = .ok r)
    (hregister' : ofDocuments others = .ok r') : r.documents = r'.documents := by
  apply Index.eq_of_get?_eq
  intro id
  apply Option.ext
  intro d
  have hget : r.get? id = some d ↔ r'.get? id = some d := by
    rw [get?_eq_some_iff_of_ofDocuments hregister, get?_eq_some_iff_of_ofDocuments hregister',
      hperm.mem_iff]
  exact hget

theorem alike_of_perm (hperm : ds.Perm others) (hregister : ofDocuments ds = .ok r)
    (hregister' : ofDocuments others = .ok r') : r.Alike r' where
  documents_eq := documents_eq_of_perm hperm hregister hregister'
  isSome_findBySource?_eq := by
    intro path
    rw [Bool.eq_iff_iff, isSome_findBySource?_iff hregister, isSome_findBySource?_iff hregister']
    simp only [hperm.mem_iff]

/-- A file that belongs to no two documents leads to the same one in any order. -/
theorem findBySource?_eq_of_perm (hperm : ds.Perm others) (hregister : ofDocuments ds = .ok r)
    (hregister' : ofDocuments others = .ok r') {path : Path}
    (hsole : ∀ d ∈ ds, ∀ e ∈ ds, d.isAt path = true → e.isAt path = true → d = e) :
    r.findBySource? path = r'.findBySource? path := by
  have hsame : ∀ d ∈ ds.filter (Document.isAt path), ∀ e ∈ ds.filter (Document.isAt path),
      d = e := by
    intro d hd e he
    obtain ⟨hd, hdAt⟩ := List.mem_filter.mp hd
    obtain ⟨he, heAt⟩ := List.mem_filter.mp he
    exact hsole d hd e he hdAt heAt
  have hfilter := hperm.filter (Document.isAt path)
  -- documents that are all the same have no other order
  have hlist : ds.filter (Document.isAt path) = others.filter (Document.isAt path) := by
    refine hfilter.eq_of_pairwise (fun d e _ _ heq _ => heq)
      (List.pairwise_of_forall_mem_list hsame)
      (List.pairwise_of_forall_mem_list fun d hd e he => ?_)
    exact hsame d (hfilter.mem_iff.mpr hd) e (hfilter.mem_iff.mpr he)
  rw [findBySource?_of_ofDocuments_eq hregister, findBySource?_of_ofDocuments_eq hregister', hlist]

namespace Alike

variable (halike : r.Alike r')

include halike

theorem contains_eq : r.contains = r'.contains := by
  funext id
  rw [contains, contains, halike.documents_eq]

theorem get?_eq (id : DocumentId) : r.get? id = r'.get? id := by
  rw [get?, get?, halike.documents_eq]

theorem all_eq : r.all = r'.all := by
  rw [all, all, halike.documents_eq]

theorem checkLink_eq (d : Document) : Link.checkLink r d = Link.checkLink r' d := by
  funext link
  have hresolve (target : String) :
      (Link.resolve? r target).isSome = (Link.resolve? r' target).isSome := by
    rw [Bool.eq_iff_iff, Link.isSome_resolve?_iff, Link.isSome_resolve?_iff,
      halike.isSome_findBySource?_eq, halike.contains_eq]
  unfold Link.checkLink
  split
  · rfl
  · rw [hresolve]

theorem check_eq : Link.check r = Link.check r' := by
  simp only [Link.check, halike.all_eq, halike.checkLink_eq]

theorem parse_eq (spec : Json) : Spec.parse spec r = Spec.parse spec r' := by
  rw [Spec.parse, Spec.parse, halike.contains_eq]

theorem build_eq (spec : Json) (policy : Policy) (reports : List Unresolved) :
    Navigation.build spec r policy reports = Navigation.build spec r' policy reports := by
  rw [Navigation.build, Navigation.build, halike.parse_eq]

theorem resolve_eq (s : Sidebars) (name : String) (policy : Policy) (reports : List Unresolved) :
    s.resolve name r policy reports = s.resolve name r' policy reports := by
  have hnamed (spec : Json) : Spec.parseNamed name spec r = Spec.parseNamed name spec r' := by
    rw [Spec.parseNamed, Spec.parseNamed, halike.contains_eq]
  have hparse : s.parse name r = s.parse name r' := by
    unfold Sidebars.parse
    split
    · rfl
    · rw [hnamed]
  rw [Sidebars.resolve, Sidebars.resolve, hparse]

end Alike

/-- **The order of registration makes no difference.** Documents with different ids can be
registered in any order. The registries answer alike for ids, list the same documents, report the
same broken links, and give the same readings and navigations of every spec. A file leads to the
same document if no two documents have it, and to some document in both or in neither if several
have. -/
theorem same_answers_of_perm (hids : (ds.map (·.id)).Nodup) (hperm : ds.Perm others) :
    ∃ r r', ofDocuments ds = .ok r ∧ ofDocuments others = .ok r' ∧
      (∀ id, r.contains id = r'.contains id ∧ r.get? id = r'.get? id) ∧
      r.ids = r'.ids ∧ r.all = r'.all ∧ r.size = r'.size ∧ Link.check r = Link.check r' ∧
      (∀ spec, Spec.parse spec r = Spec.parse spec r') ∧
      (∀ spec policy reports, Navigation.build spec r policy reports =
        Navigation.build spec r' policy reports) ∧
      (∀ (s : Sidebars) name policy reports, s.resolve name r policy reports =
        s.resolve name r' policy reports) ∧
      (∀ path, (∀ d ∈ ds, ∀ e ∈ ds, d.isAt path = true → e.isAt path = true → d = e) →
        r.findBySource? path = r'.findBySource? path) ∧
      ∀ path, (r.findBySource? path).isSome = (r'.findBySource? path).isSome := by
  obtain ⟨r, hregister⟩ := exists_of_nodup_ids hids
  obtain ⟨r', hregister'⟩ := exists_of_nodup_ids ((hperm.map _).nodup_iff.mp hids)
  have halike := alike_of_perm hperm hregister hregister'
  refine ⟨r, r', hregister, hregister', fun id => ?_, ?_, halike.all_eq, ?_, halike.check_eq,
    halike.parse_eq, halike.build_eq, halike.resolve_eq, fun path hsole => ?_,
    halike.isSome_findBySource?_eq⟩
  · exact ⟨congrFun halike.contains_eq id, halike.get?_eq id⟩
  · rw [ids, ids, halike.documents_eq]
  · rw [size, size, halike.documents_eq]
  · exact findBySource?_eq_of_perm hperm hregister hregister' hsole

/-- Two documents have one file, to which a third one has a link beside one that leads nowhere. -/
def shelf : List Document :=
  [⟨"a", "A", some ⟨"y.md"⟩, []⟩, ⟨"b", "B", some ⟨"x.md"⟩, ["y.md", "z.md"]⟩,
    ⟨"c", "C", some ⟨"y.md"⟩, []⟩]

/-- The file of two documents leads to one or the other, and the same link is reported. -/
theorem same_answers_of_perm_sample :
    (shelf.map (·.id)).Nodup ∧ shelf.Perm shelf.reverse ∧
      ∃ r r', ofDocuments shelf = .ok r ∧ ofDocuments shelf.reverse = .ok r' ∧
        r.findBySource? ⟨"y.md"⟩ = some "c" ∧ r'.findBySource? ⟨"y.md"⟩ = some "a" ∧
        r.findBySource? ⟨"x.md"⟩ = r'.findBySource? ⟨"x.md"⟩ ∧
        Link.check r = [⟨"z", .link "b"⟩] ∧ Link.check r' = [⟨"z", .link "b"⟩] := by
  have hids : (shelf.map (·.id)).Nodup := by decide
  have hperm : shelf.Perm shelf.reverse := (List.reverse_perm shelf).symm
  obtain ⟨r, r', hregister, hregister', -, -, -, -, hcheck, -, -, -, hfind, -⟩ :=
    same_answers_of_perm hids hperm
  have hlast := findBySource?_of_ofDocuments_eq hregister ⟨"y.md"⟩
  have hlast' := findBySource?_of_ofDocuments_eq hregister' ⟨"y.md"⟩
  obtain ⟨known, hknown, hreported⟩ : ∃ known, ofDocuments shelf = .ok known ∧
      Link.check known = [⟨"z", .link "b"⟩] := ⟨_, rfl, by decide⟩
  obtain rfl : known = r := Except.ok.inj (hknown.symm.trans hregister)
  exact ⟨hids, hperm, known, r', hregister, hregister', hlast.trans (by decide),
    hlast'.trans (by decide), hfind ⟨"x.md"⟩ (by decide), hreported, hcheck.symm.trans hreported⟩

end Registry

end Signpost
