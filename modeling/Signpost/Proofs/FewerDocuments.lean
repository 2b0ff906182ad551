import Signpost.Proofs.PolicyRuns
import Signpost.Proofs.ReadingOrder

/-!
# Reading with fewer known documents

When fewer documents are known, reading a spec gives the same tree with fewer leaves. The leaves that
go are reported as unresolved instead, so that none is lost. Since only known documents count as
repeated, knowing less never makes a reading fail.
-/

namespace Signpost

namespace Item

theorem docCountOf_eq_length (items : List Item) : docCountOf items = (idsOf items).length := by
  induction items using forestInduction with
  | nil => rfl
  | doc id label rest ih => simp [docCountOf, docCount, idsOf, ids, ih, Nat.add_comm]
  | category label collapsed items rest ihItems ihRest =>
      simp [docCountOf, docCount, idsOf, ids, ihItems, ihRest]

theorem pruneAll_pruneAll (known known' : DocumentId → Bool) (items : List Item) :
    pruneAll known (pruneAll known' items) = pruneAll (fun id => known' id && known id) items := by
  induction items using forestInduction with
  | nil => rfl
  | doc id label rest ih =>
      rw [pruneAll, pruneAll_append, ih, pruneAll]
      cases hknown' : known' id <;> simp [prune, pruneAll, hknown']
  | category label collapsed items rest ihItems ihRest =>
      rw [pruneAll, pruneAll_append, ihRest, pruneAll]
      simp [prune, pruneAll, ihItems]

end Item

/-- All documents that the first predicate knows are known to the second one. -/
def KnowsFewer (small large : DocumentId → Bool) : Prop :=
  ∀ id, small id = true → large id = true

section KnowsFewer

variable {small large : DocumentId → Bool}

theorem KnowsFewer.and_eq (hfewer : KnowsFewer small large) :
    (fun id => large id && small id) = small := by
  funext id
  cases hsmall : small id with
  | false => simp
  | true => simp [hfewer id hsmall]

/-- What a tree says to those who know less: it loses the leaves of the documents that they do not
know, and each of these leaves is unresolved. -/
theorem ParsedSpec.ofTree_of_knowsFewer (hfewer : KnowsFewer small large) (trail : List String)
    (tree : List Item) :
    (ofTree small trail tree).items = Item.pruneAll small (ofTree large trail tree).items ∧
      (ofTree large trail tree).unresolved.Sublist (ofTree small trail tree).unresolved := by
  constructor
  · change Item.pruneAll small tree = Item.pruneAll small (Item.pruneAll large tree)
    rw [Item.pruneAll_pruneAll, hfewer.and_eq]
  · refine List.Sublist.map _ (List.monotone_filter_right _ ?_)
    intro m hunknown
    cases hsmall : small m.id with
    | false => rfl
    | true => simp [hfewer m.id hsmall] at hunknown

/-- Every reference of a tree is a leaf or unresolved. -/
theorem ParsedSpec.length_ofTree (known : DocumentId → Bool) (trail : List String)
    (tree : List Item) :
    Item.docCountOf (ofTree known trail tree).items + (ofTree known trail tree).unresolved.length =
      (Item.mentionsOf trail tree).length := by
  have hleaves : Item.docCountOf (ofTree known trail tree).items =
      ((Item.mentionsOf trail tree).filter fun m => known m.id).length := by
    rw [Item.docCountOf_eq_length, Item.idsOf_eq_map_mentionsOf trail, List.length_map]
    exact congrArg List.length (Item.mentionsOf_pruneAll known trail tree)
  rw [hleaves, ofTree, List.length_map]
  exact (List.length_eq_length_filter_add fun m : Mention => known m.id).symm

end KnowsFewer

namespace Navigation

variable {spec : Json} {registry : Registry} {policy : Policy} {parsed : ParsedSpec}

theorem build_result_of_ne_throw (hparse : Spec.parse spec registry = .ok parsed)
    (hpolicy : policy ≠ .throw) (reports : List Unresolved) :
    (build spec registry policy reports).result = .ok (ofItems parsed.items) := by
  rw [build_of_parse_eq_ok hparse]
  cases policy with
  | ignore => rw [ofParsed_ignore]
  | warn => rw [ofParsed_warn]
  | throw => exact absurd rfl hpolicy

end Navigation

namespace Spec

/-- **Knowing fewer documents is pruning.** A spec that can be read can be read by those who know
less. Its tree is then the same one without the leaves of the documents that they do not know, its
empty categories are the same, what was unresolved still is, and leaves and unresolved references
together are as many as before. The reading order, if unresolved references are no error, is what
remains of the one before. -/
theorem parse_of_fewer_known {spec : Json} {small large : Registry} {parsed : ParsedSpec}
    (hfewer : ∀ id, small.contains id = true → large.contains id = true)
    (hparse : parse spec large = .ok parsed) :
    ∃ fewer, parse spec small = .ok fewer ∧
      fewer.items = Item.pruneAll small.contains parsed.items ∧
      fewer.emptyCategories = parsed.emptyCategories ∧
      parsed.unresolved.Sublist fewer.unresolved ∧
      Item.docCountOf fewer.items + fewer.unresolved.length =
        Item.docCountOf parsed.items + parsed.unresolved.length ∧
      ∀ policy policy' reports reports', policy ≠ .throw → policy' ≠ .throw →
        ∃ nav nav', (Navigation.build spec small policy reports).result = .ok nav ∧
          (Navigation.build spec large policy' reports').result = .ok nav' ∧
          nav.order = nav'.order.filter small.contains := by
  obtain ⟨hsound, hnodup, hparsed⟩ := parse_eq_ok_iff.mp hparse
  have hfilter : ((Item.idsOf (declared spec)).filter small.contains).Sublist
      ((Item.idsOf (declared spec)).filter large.contains) :=
    List.monotone_filter_right _ hfewer
  have hsmall : parse spec small = .ok (.ofTree small.contains [] (declared spec)) :=
    parse_eq_ok_iff.mpr ⟨hsound, hnodup.sublist hfilter, rfl⟩
  obtain ⟨hitems, hunresolved⟩ :=
    ParsedSpec.ofTree_of_knowsFewer hfewer [] (declared spec)
  refine ⟨_, hsmall, ?_, ?_, ?_, ?_, ?_⟩
  · rw [hparsed]
    exact hitems
  · rw [hparsed]
    rfl
  · rw [hparsed]
    exact hunresolved
  · rw [hparsed, ParsedSpec.length_ofTree, ParsedSpec.length_ofTree]
  · intro policy policy' reports reports' hpolicy hpolicy'
    refine ⟨_, _, Navigation.build_result_of_ne_throw hsmall hpolicy reports,
      Navigation.build_result_of_ne_throw hparse hpolicy' reports', ?_⟩
    rw [Navigation.order_ofItems, Navigation.order_ofItems, hparsed, hitems, Item.idsOf_pruneAll]

theorem parse_of_fewer_known_sample :
    let small : Registry :=
      { documents := Index.ofList [("intro", { id := "intro", title := "Introduction" })] }
    (∀ id, small.contains id = true → sampleRegistry.contains id = true) ∧
      parse sampleSpec sampleRegistry = .ok sampleParsed ∧
      ∃ fewer, parse sampleSpec small = .ok fewer ∧
        fewer.items =
          [.doc "intro" none,
            .category "Guides" false [.category "Gone" true [], .category "Later" true []]] ∧
        fewer.emptyCategories = sampleParsed.emptyCategories ∧
        sampleParsed.unresolved.Sublist fewer.unresolved ∧
        Item.docCountOf fewer.items + fewer.unresolved.length = 5 := by
  intro small
  have hfewer : ∀ id, small.contains id = true → sampleRegistry.contains id = true := by
    intro id hid
    have hmem : id ∈ ["intro"] := Index.mem_keys_iff.mpr hid
    rw [List.mem_singleton.mp hmem]
    decide
  have hparse : parse sampleSpec sampleRegistry = .ok sampleParsed := rfl
  obtain ⟨fewer, hsmall, hitems, hempty, hunresolved, hcount, -⟩ :=
    parse_of_fewer_known hfewer hparse
  exact ⟨hfewer, hparse, fewer, hsmall, hitems.trans rfl, hempty, hunresolved, hcount.trans rfl⟩

end Spec

end Signpost
