import Signpost.Proofs.ReadingOrder
import Signpost.Proofs.PolicyRuns
import Mathlib.Data.List.Nodup

/-!
# The reading order as a doubly linked list

In an order without repetitions the document at a number has this number as its position and the
documents at the numbers beside it as its neighbours. Neighbours then point at each other, and going
on from the first document to the next one passes every document once. A navigation that is built
from a spec has such an order, because no known document can be referred to twice.
-/

namespace Signpost.Navigation

/-- Going on to the next document from here until there is none passes these documents. -/
inductive Walk (nav : Navigation) : Option DocumentId → List DocumentId → Prop where
  | done : Walk nav none []
  | step {id : DocumentId} {rest : List DocumentId} :
      Walk nav (nav.next? id) rest → Walk nav (some id) (id :: rest)

theorem Walk.unique {nav : Navigation} {start : Option DocumentId} {first second : List DocumentId}
    (hfirst : nav.Walk start first) (hsecond : nav.Walk start second) : first = second := by
  induction hfirst generalizing second with
  | done =>
      cases hsecond
      rfl
  | step _ ih =>
      cases hsecond with
      | step hrest => rw [ih hrest]

/-- The places of a navigation make its order a doubly linked list. -/
structure IsLinked (nav : Navigation) : Prop where
  order_nodup : nav.order.Nodup
  links_keys_perm : nav.links.keys.Perm nav.order
  positions_keys_perm : nav.positions.keys.Perm nav.order
  contains_iff : ∀ id, nav.contains id = true ↔ id ∈ nav.order
  position_getElem : ∀ (i : Nat) (hi : i < nav.order.length), nav.position? nav.order[i] = some i
  next_iff_previous : ∀ a b, nav.next? a = some b ↔ nav.previous? b = some a
  next_iff_position : ∀ a b, nav.next? a = some b ↔
    ∃ i, nav.position? a = some i ∧ nav.position? b = some (i + 1)
  previous_first : ∀ id, nav.order.head? = some id → nav.previous? id = none
  next_last : ∀ id, nav.order.getLast? = some id → nav.next? id = none
  /-- The walk from the first document comes to an end and passes the order. -/
  walk_iff : ∀ passed, nav.Walk nav.order.head? passed ↔ passed = nav.order

section Nodup

variable {items : List Item} (hnodup : (Item.idsOf items).Nodup)
include hnodup

theorem position?_eq_some_iff {id : DocumentId} {i : Nat} :
    (ofItems items).position? id = some i ↔ (Item.idsOf items)[i]? = some id := by
  rw [position?_eq_some_iff_isFirstAt, isFirstAt_iff_of_nodup hnodup]

theorem next?_eq_of_getElem? {id : DocumentId} {i : Nat}
    (hget : (Item.idsOf items)[i]? = some id) :
    (ofItems items).next? id = (Item.idsOf items)[i + 1]? :=
  next?_of_isFirstAt ((isFirstAt_iff_of_nodup hnodup).mpr hget)

theorem previous?_eq_of_getElem? {id : DocumentId} {i : Nat}
    (hget : (Item.idsOf items)[i]? = some id) :
    (ofItems items).previous? id = if i = 0 then none else (Item.idsOf items)[i - 1]? :=
  previous?_of_isFirstAt ((isFirstAt_iff_of_nodup hnodup).mpr hget)

theorem next?_eq_some_iff {a b : DocumentId} :
    (ofItems items).next? a = some b ↔
      ∃ i, (Item.idsOf items)[i]? = some a ∧ (Item.idsOf items)[i + 1]? = some b := by
  simp only [next?_eq_some_iff_isFirstAt, isFirstAt_iff_of_nodup hnodup]

theorem previous?_eq_some_iff {a b : DocumentId} :
    (ofItems items).previous? b = some a ↔
      ∃ i, (Item.idsOf items)[i]? = some a ∧ (Item.idsOf items)[i + 1]? = some b := by
  simp only [previous?_eq_some_iff_isFirstAt, isFirstAt_iff_of_nodup hnodup]
  exact exists_congr fun i => and_comm

/-- From the document at a number, the walk passes what is left of the order. -/
theorem walk_drop (i : Nat) :
    (ofItems items).Walk (Item.idsOf items)[i]? ((Item.idsOf items).drop i) := by
  by_cases hi : i < (Item.idsOf items).length
  · have hget : (Item.idsOf items)[i]? = some (Item.idsOf items)[i] := List.getElem?_eq_getElem hi
    rw [hget, List.drop_eq_getElem_cons hi]
    refine .step ?_
    rw [next?_eq_of_getElem? hnodup hget]
    exact walk_drop (i + 1)
  · have hle : (Item.idsOf items).length ≤ i := Nat.le_of_not_lt hi
    rw [List.getElem?_eq_none hle, List.drop_eq_nil_of_le hle]
    exact .done
termination_by (Item.idsOf items).length - i

theorem positions_keys_perm_ofItems : (ofItems items).positions.keys.Perm (Item.idsOf items) :=
  (List.perm_ext_iff_of_nodup (Index.nodup_keys _) hnodup).mpr fun _ => mem_keys_ofItems

theorem isLinked_ofItems : (ofItems items).IsLinked where
  order_nodup := hnodup
  links_keys_perm := keys_ofItems items ▸ positions_keys_perm_ofItems hnodup
  positions_keys_perm := positions_keys_perm_ofItems hnodup
  contains_iff := fun _ => contains_ofItems
  position_getElem := fun i hi =>
    (position?_eq_some_iff hnodup).mpr (List.getElem?_eq_getElem hi)
  next_iff_previous := fun a b =>
    (next?_eq_some_iff hnodup).trans (previous?_eq_some_iff hnodup).symm
  next_iff_position := fun a b => by
    simp only [next?_eq_some_iff hnodup, position?_eq_some_iff hnodup]
  previous_first := fun id hfirst => by
    rw [order_ofItems, List.head?_eq_getElem?] at hfirst
    rw [previous?_eq_of_getElem? hnodup hfirst, if_pos rfl]
  next_last := fun id hlast => by
    rw [order_ofItems, List.getLast?_eq_getElem?] at hlast
    rw [next?_eq_of_getElem? hnodup hlast]
    exact List.getElem?_eq_none (by omega)
  walk_iff := fun passed => by
    have hwalk := walk_drop hnodup 0
    rw [List.drop_zero, ← List.head?_eq_getElem?] at hwalk
    constructor
    · exact fun hpassed => hpassed.unique hwalk
    · rintro rfl
      exact hwalk

end Nodup

/-- **A built navigation is a doubly linked list of registered documents.** They are the documents
that the spec refers to and that are registered, in the order of the references. -/
theorem isLinked_of_build {spec : Json} {registry : Registry} {policy : Policy}
    {reports : List Unresolved} {nav : Navigation}
    (hbuild : (build spec registry policy reports).result = .ok nav) :
    nav.IsLinked ∧ (∀ id ∈ nav.order, registry.contains id = true) ∧
      nav.order = ((Spec.references spec).map (·.id)).filter registry.contains := by
  obtain ⟨parsed, hparse, rfl⟩ := build_result_eq_ok hbuild
  obtain ⟨_, hnodup, rfl⟩ := Spec.parse_eq_ok_iff.mp hparse
  have hids : Item.idsOf (ParsedSpec.ofTree registry.contains [] (Spec.declared spec)).items =
      (Item.idsOf (Spec.declared spec)).filter registry.contains := Item.idsOf_pruneAll _ _
  rw [← hids] at hnodup
  refine ⟨isLinked_ofItems hnodup, fun id hid => ?_, ?_⟩
  · rw [order_ofItems, hids] at hid
    exact (List.mem_filter.mp hid).2
  · rw [order_ofItems, hids, Item.idsOf_eq_map_mentionsOf []]
    rfl

theorem isLinked_of_build_sample :
    (build Spec.sampleSpec Spec.sampleRegistry .warn []).result =
        .ok (ofItems Spec.sampleParsed.items) ∧
      (ofItems Spec.sampleParsed.items).IsLinked ∧
      (∀ id ∈ (ofItems Spec.sampleParsed.items).order,
        Spec.sampleRegistry.contains id = true) ∧
      (ofItems Spec.sampleParsed.items).order = ["intro", "faq"] := by
  have hbuild : (build Spec.sampleSpec Spec.sampleRegistry .warn []).result =
      .ok (ofItems Spec.sampleParsed.items) := rfl
  obtain ⟨hlinked, hregistered, horder⟩ := isLinked_of_build hbuild
  exact ⟨hbuild, hlinked, hregistered, horder.trans (by decide)⟩

end Signpost.Navigation
