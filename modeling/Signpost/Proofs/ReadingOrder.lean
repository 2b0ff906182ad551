import Signpost.Navigation
import Signpost.Proofs.IndexLookup
import Mathlib.Data.List.Nodup

/-!
# Places in the reading order

The place of a document in a navigation is the place of its first occurrence in the order: how many
documents stand before it, and the two that stand right beside it. This holds of every tree, also of
one in which a document occurs more than once. The positions and the neighbours are entered together
and stay under the same ids.
-/

namespace Signpost

/-- The neighbours of the document with the given number in an order. -/
def Neighbours.inOrder (order : List DocumentId) (i : Nat) : Neighbours :=
  ⟨if i = 0 then none else order[i - 1]?, order[i + 1]?⟩

namespace Places

variable {places : Places} {id other : DocumentId} {order : List DocumentId}

/-- The neighbours and the positions are under the same ids. -/
def Agree (places : Places) : Prop :=
  ∀ id, places.links.contains id = places.positions.contains id

theorem get?_positions_enter (position : Nat) (neighbours : Neighbours) :
    (places.enter id position neighbours).positions.get? other =
      (places.positions.get? other).or (if other = id then some position else none) := by
  rw [enter, Index.contains]
  cases hpresent : places.positions.get? id with
  | some present => by_cases hother : other = id <;> simp [hother, hpresent]
  | none => by_cases hother : other = id <;> simp [hother, hpresent, Index.get?_insert]

theorem get?_links_enter (hagree : places.Agree) (position : Nat) (neighbours : Neighbours) :
    (places.enter id position neighbours).links.get? other =
      (places.links.get? other).or (if other = id then some neighbours else none) := by
  rw [enter, ← hagree id, Index.contains]
  cases hpresent : places.links.get? id with
  | some present => by_cases hother : other = id <;> simp [hother, hpresent]
  | none => by_cases hother : other = id <;> simp [hother, hpresent, Index.get?_insert]

theorem Agree.enter (hagree : places.Agree) (id : DocumentId) (position : Nat)
    (neighbours : Neighbours) : (places.enter id position neighbours).Agree := by
  intro other
  have hother := hagree other
  rw [Index.contains, Index.contains] at hother
  rw [Index.contains, Index.contains, get?_links_enter hagree, get?_positions_enter,
    Option.isSome_or, Option.isSome_or, hother]
  split <;> rfl

theorem agree_enterAll (hagree : places.Agree) (position : Nat) (previous : Option DocumentId)
    (order : List DocumentId) : (places.enterAll position previous order).Agree := by
  induction order generalizing places position previous with
  | nil => exact hagree
  | cons first rest ih => exact ih (hagree.enter first position _) (position + 1) (some first)

theorem get?_positions_enterAll (position : Nat) (previous : Option DocumentId) :
    (places.enterAll position previous order).positions.get? id =
      (places.positions.get? id).or
        (if id ∈ order then some (position + order.idxOf id) else none) := by
  induction order generalizing places position previous with
  | nil => simp [enterAll]
  | cons first rest ih =>
      rw [enterAll, ih, get?_positions_enter, Option.or_assoc]
      congr 1
      by_cases heq : id = first
      · simp [heq]
      · rw [List.idxOf_cons_ne rest (Ne.symm heq)]
        simp [heq, Nat.add_assoc, Nat.add_comm 1]

theorem get?_links_enterAll (hagree : places.Agree) (position : Nat)
    (previous : Option DocumentId) :
    (places.enterAll position previous order).links.get? id =
      (places.links.get? id).or
        (if id ∈ order then
          some ⟨if order.idxOf id = 0 then previous else order[order.idxOf id - 1]?,
            order[order.idxOf id + 1]?⟩
        else none) := by
  induction order generalizing places position previous with
  | nil => simp [enterAll]
  | cons first rest ih =>
      rw [enterAll, ih (hagree.enter first position _), get?_links_enter hagree, Option.or_assoc]
      congr 1
      by_cases heq : id = first
      · simp [heq, List.head?_eq_getElem?]
      · rw [List.idxOf_cons_ne rest (Ne.symm heq)]
        cases hindex : rest.idxOf id <;> simp [heq]

end Places

namespace Navigation

/-- The number is that of the first occurrence of a document in an order. -/
def IsFirstAt (order : List DocumentId) (id : DocumentId) (i : Nat) : Prop :=
  order[i]? = some id ∧ ∀ j < i, order[j]? ≠ some id

theorem isFirstAt_iff {order : List DocumentId} {id : DocumentId} {i : Nat} :
    IsFirstAt order id i ↔ id ∈ order ∧ order.idxOf id = i := by
  constructor
  · rintro ⟨hget, hbefore⟩
    obtain ⟨hi, rfl⟩ := List.getElem?_eq_some_iff.mp hget
    refine ⟨List.getElem_mem hi, (List.findIdx_eq hi).mpr ⟨beq_self_eq_true _, fun j hj => ?_⟩⟩
    have hne := hbefore j hj
    rw [List.getElem?_eq_getElem (Nat.lt_trans hj hi)] at hne
    simpa using hne
  · rintro ⟨hmem, rfl⟩
    refine ⟨List.getElem?_idxOf hmem, fun j hj hget => ?_⟩
    obtain ⟨hlt, heq⟩ := List.getElem?_eq_some_iff.mp hget
    have hne := List.not_of_lt_findIdx hj
    rw [heq, beq_self_eq_true] at hne
    cases hne

theorem exists_isFirstAt {order : List DocumentId} {id : DocumentId} (hmem : id ∈ order) :
    ∃ i, IsFirstAt order id i :=
  ⟨_, isFirstAt_iff.mpr ⟨hmem, rfl⟩⟩

/-- In an order without repetitions every occurrence is the first one. -/
theorem isFirstAt_iff_of_nodup {order : List DocumentId} (hnodup : order.Nodup) {id : DocumentId}
    {i : Nat} : IsFirstAt order id i ↔ order[i]? = some id := by
  rw [isFirstAt_iff]
  constructor
  · rintro ⟨hmem, rfl⟩
    exact List.getElem?_idxOf hmem
  · intro hget
    obtain ⟨hi, rfl⟩ := List.getElem?_eq_some_iff.mp hget
    exact ⟨List.getElem_mem hi, hnodup.idxOf_getElem i hi⟩

variable {items : List Item} {id : DocumentId} {i : Nat}

/-- The first occurrence of a document in the order decides its position. -/
theorem position?_ofItems (items : List Item) (id : DocumentId) :
    (ofItems items).position? id =
      if id ∈ Item.idsOf items then some ((Item.idsOf items).idxOf id) else none := by
  change (Places.enterAll {} 0 none (Item.idsOf items)).positions.get? id = _
  rw [Places.get?_positions_enterAll, Index.get?_empty, Option.none_or, Nat.zero_add]

/-- The first occurrence of a document in the order decides its neighbours. -/
theorem neighbours?_ofItems (items : List Item) (id : DocumentId) :
    (ofItems items).neighbours? id =
      if id ∈ Item.idsOf items then
        some (Neighbours.inOrder (Item.idsOf items) ((Item.idsOf items).idxOf id))
      else none := by
  change (Places.enterAll {} 0 none (Item.idsOf items)).links.get? id = _
  rw [Places.get?_links_enterAll fun _ => rfl, Index.get?_empty, Option.none_or,
    Neighbours.inOrder]

/-- A document that is not in the tree has no neighbours. -/
theorem neighbours?_eq_none (hnotMem : id ∉ Item.idsOf items) :
    (ofItems items).neighbours? id = none := by
  rw [neighbours?_ofItems, if_neg hnotMem]

@[simp]
theorem order_ofItems (items : List Item) : (ofItems items).order = Item.idsOf items := rfl

theorem contains_ofItems : (ofItems items).contains id = true ↔ id ∈ Item.idsOf items := by
  change ((ofItems items).position? id).isSome = true ↔ _
  rw [position?_ofItems]
  split <;> simp [*]

theorem position?_eq_some_iff_isFirstAt :
    (ofItems items).position? id = some i ↔ IsFirstAt (Item.idsOf items) id i := by
  rw [position?_ofItems, isFirstAt_iff]
  split <;> simp [*]

theorem previous?_of_isFirstAt (hfirst : IsFirstAt (Item.idsOf items) id i) :
    (ofItems items).previous? id = if i = 0 then none else (Item.idsOf items)[i - 1]? := by
  obtain ⟨hmem, rfl⟩ := isFirstAt_iff.mp hfirst
  rw [previous?, neighbours?_ofItems, if_pos hmem, Option.bind_some, Neighbours.inOrder]

theorem next?_of_isFirstAt (hfirst : IsFirstAt (Item.idsOf items) id i) :
    (ofItems items).next? id = (Item.idsOf items)[i + 1]? := by
  obtain ⟨hmem, rfl⟩ := isFirstAt_iff.mp hfirst
  rw [next?, neighbours?_ofItems, if_pos hmem, Option.bind_some, Neighbours.inOrder]

theorem previous?_eq_some_iff_isFirstAt {before : DocumentId} :
    (ofItems items).previous? id = some before ↔
      ∃ i, IsFirstAt (Item.idsOf items) id (i + 1) ∧ (Item.idsOf items)[i]? = some before := by
  constructor
  · intro hprevious
    have hmem : id ∈ Item.idsOf items := by
      by_contra hnotMem
      rw [previous?, neighbours?_eq_none hnotMem] at hprevious
      cases hprevious
    obtain ⟨i, hfirst⟩ := exists_isFirstAt hmem
    rw [previous?_of_isFirstAt hfirst] at hprevious
    cases i with
    | zero => cases hprevious
    | succ i => exact ⟨i, hfirst, hprevious⟩
  · rintro ⟨i, hfirst, hget⟩
    rw [previous?_of_isFirstAt hfirst, if_neg (Nat.succ_ne_zero i), Nat.add_sub_cancel, hget]

theorem next?_eq_some_iff_isFirstAt {after : DocumentId} :
    (ofItems items).next? id = some after ↔
      ∃ i, IsFirstAt (Item.idsOf items) id i ∧ (Item.idsOf items)[i + 1]? = some after := by
  constructor
  · intro hnext
    have hmem : id ∈ Item.idsOf items := by
      by_contra hnotMem
      rw [next?, neighbours?_eq_none hnotMem] at hnext
      cases hnext
    obtain ⟨i, hfirst⟩ := exists_isFirstAt hmem
    rw [next?_of_isFirstAt hfirst] at hnext
    exact ⟨i, hfirst, hnext⟩
  · rintro ⟨i, hfirst, hget⟩
    rw [next?_of_isFirstAt hfirst, hget]

theorem previous?_eq_none_iff (hfirst : IsFirstAt (Item.idsOf items) id i) :
    (ofItems items).previous? id = none ↔ i = 0 := by
  obtain ⟨hi, -⟩ := List.getElem?_eq_some_iff.mp hfirst.1
  rw [previous?_of_isFirstAt hfirst]
  cases i with
  | zero => simp
  | succ i => simpa using Nat.lt_of_succ_lt hi

theorem next?_eq_none_iff (hfirst : IsFirstAt (Item.idsOf items) id i) :
    (ofItems items).next? id = none ↔ i + 1 = (Item.idsOf items).length := by
  obtain ⟨hi, -⟩ := List.getElem?_eq_some_iff.mp hfirst.1
  rw [next?_of_isFirstAt hfirst, List.getElem?_eq_none_iff]
  omega

/-- The neighbours and the positions of a navigation have the same keys. -/
theorem keys_ofItems (items : List Item) :
    (ofItems items).links.keys = (ofItems items).positions.keys :=
  Index.keys_eq_of_contains_eq (Places.agree_enterAll (fun _ => rfl) 0 none (Item.idsOf items))

theorem mem_keys_ofItems : id ∈ (ofItems items).positions.keys ↔ id ∈ Item.idsOf items :=
  Index.mem_keys_iff.trans contains_ofItems

end Navigation

end Signpost
