import Signpost.Output
import Signpost.Proofs.FewerDocuments
import Mathlib.Algebra.GroupWithZero.Nat
import Mathlib.Data.List.Dedup

/-!
# Documents that occur more than once

In a tree that was put together by hand a document can occur more than once. The reading order keeps
every occurrence. The place of a document, its neighbours and the labels above it are those of its
first occurrence: the search for the labels goes through the tree and gives up every category in
which it finds nothing, and still it comes to the same leaf as the position does.
-/

namespace Signpost

namespace Item

theorem docCountOf_eq_sum (items : List Item) : docCountOf items = (items.map docCount).sum := by
  induction items with
  | nil => rfl
  | cons item items ih => rw [docCountOf, ih, List.map_cons, List.sum_cons]

mutual

/-- How many categories are around each leaf, in reading order. -/
def depths (depth : Nat) : Item → List Nat
  | .doc _ _ => [depth]
  | .category _ _ items => depthsOf (depth + 1) items

def depthsOf (depth : Nat) : List Item → List Nat
  | [] => []
  | item :: items => item.depths depth ++ depthsOf depth items

end

/-- The labels around a leaf are as many as the categories around it. -/
theorem depthsOf_eq_map_mentionsOf (trail : List String) (items : List Item) :
    depthsOf trail.length items = (mentionsOf trail items).map (·.trail.length) := by
  induction items using forestInduction generalizing trail with
  | nil => rfl
  | doc id label rest ih => simp [depthsOf, depths, mentionsOf, mentions, ih]
  | category label collapsed items rest ihItems ihRest =>
      have hinner := ihItems (trail ++ [label])
      rw [List.length_append, List.length_singleton] at hinner
      rw [depthsOf, depths, hinner, ihRest, mentionsOf, mentions, List.map_append]

/-- The search for the labels around a document finds those of its first leaf. -/
theorem map_trailToIn? (id : DocumentId) (trail : List String) (items : List Item) :
    (trailToIn? id items).map (trail ++ ·) =
      ((mentionsOf trail items).find? fun m => m.id = id).map (·.trail) := by
  induction items using forestInduction generalizing trail with
  | nil => rfl
  | doc other label rest ih =>
      rw [trailToIn?, trailTo?, mentionsOf, mentions, List.singleton_append]
      by_cases hother : other = id
      · simp [hother]
      · rw [if_neg hother, List.find?_cons_of_neg (by simpa using hother)]
        exact ih trail
  | category label collapsed items rest ihItems ihRest =>
      have hinner := ihItems (trail ++ [label])
      rw [trailToIn?, trailTo?, mentionsOf, mentions, List.find?_append]
      cases hsearch : trailToIn? id items with
      | none =>
          -- nothing is found in the category, and the search goes on after it
          rw [hsearch, Option.map_none, eq_comm, Option.map_eq_none_iff] at hinner
          rw [hinner, Option.none_or]
          exact ihRest trail
      | some found =>
          rw [hsearch, Option.map_some, eq_comm, Option.map_eq_some_iff] at hinner
          obtain ⟨m, hm, htrail⟩ := hinner
          simp [hm, htrail]

theorem trailToIn?_eq (id : DocumentId) (items : List Item) :
    trailToIn? id items = ((mentionsOf [] items).find? fun m => m.id = id).map (·.trail) := by
  simpa using map_trailToIn? id [] items

end Item

namespace Navigation

variable {items : List Item} {id : DocumentId} {i : Nat}

/-- Every document that occurs has one position, and no other document has one. -/
theorem keys_perm_dedup (items : List Item) :
    (ofItems items).positions.keys.Perm (Item.idsOf items).dedup := by
  rw [List.perm_ext_iff_of_nodup (Index.nodup_keys _) (List.nodup_dedup _)]
  intro id
  rw [mem_keys_ofItems, List.mem_dedup]

/-- The navigation keeps a tree and all its leaves in reading order, and a document has the place
of its first leaf. -/
structure PlacesFirst (nav : Navigation) (items : List Item) : Prop where
  items_eq : nav.items = items
  order_eq : nav.order = (Item.mentionsOf [] items).map (·.id)
  length_eq : nav.length = (items.map Item.docCount).sum
  contains_iff : ∀ id, nav.contains id = true ↔ ∃ m ∈ Item.mentionsOf [] items, m.id = id
  position_iff : ∀ id i, nav.position? id = some i ↔ IsFirstAt nav.order id i
  previous_iff : ∀ id before, nav.previous? id = some before ↔
    ∃ i, IsFirstAt nav.order id (i + 1) ∧ nav.order[i]? = some before
  next_iff : ∀ id after, nav.next? id = some after ↔
    ∃ i, IsFirstAt nav.order id i ∧ nav.order[i + 1]? = some after
  /-- Of the documents in the order only the first one has none before it. -/
  previous_none_iff : ∀ id i, IsFirstAt nav.order id i → (nav.previous? id = none ↔ i = 0)
  /-- Of the documents in the order only the last one, if it has not occurred before, has none after
  it. -/
  next_none_iff : ∀ id i, IsFirstAt nav.order id i →
    (nav.next? id = none ↔ i + 1 = nav.order.length)
  position_isSome_iff : ∀ id, (nav.position? id).isSome = true ↔ id ∈ nav.order.dedup
  keys_eq : nav.links.keys = nav.positions.keys
  keys_perm : nav.positions.keys.Perm nav.order.dedup
  /-- The neighbours are written once for each document that has a position. -/
  links_perm : ∃ links, nav.toJson.get? "links" = some (.obj links) ∧
    (links.map (·.1)).Perm nav.order.dedup

/-- **A navigation places every document at its first occurrence.** The tree can be any one, with
documents that occur more than once anywhere in it. -/
theorem placesFirst_ofItems (items : List Item) : (ofItems items).PlacesFirst items where
  items_eq := rfl
  order_eq := Item.idsOf_eq_map_mentionsOf [] items
  length_eq := by rw [length, order_ofItems, ← Item.docCountOf_eq_length, Item.docCountOf_eq_sum]
  contains_iff := fun id => by
    rw [contains_ofItems, Item.idsOf_eq_map_mentionsOf [], List.mem_map]
  position_iff := fun _ _ => position?_eq_some_iff_isFirstAt
  previous_iff := fun _ _ => previous?_eq_some_iff_isFirstAt
  next_iff := fun _ _ => next?_eq_some_iff_isFirstAt
  previous_none_iff := fun _ _ => previous?_eq_none_iff
  next_none_iff := fun _ _ => next?_eq_none_iff
  position_isSome_iff := fun id => by
    rw [position?, ← Index.contains, ← Index.mem_keys_iff, mem_keys_ofItems, order_ofItems,
      List.mem_dedup]
  keys_eq := keys_ofItems items
  keys_perm := keys_perm_dedup items
  links_perm := by
    refine ⟨_, rfl, ?_⟩
    have hkeys := keys_perm_dedup items
    rw [← keys_ofItems] at hkeys
    rwa [List.map_map]

/-- A tree in which two documents occur twice, below categories that share a label. -/
def repeatingTree : List Item :=
  [.category "Guides" true
      [.category "Guides" false [], .category "More" true [.doc "b" none, .doc "a" (some "A")]],
    .doc "a" none, .category "Guides" true [.doc "b" none, .doc "c" none]]

/-- A document that occurs twice in a row is its own neighbour. -/
theorem placesFirst_ofItems_sample :
    (ofItems repeatingTree).order = ["b", "a", "a", "b", "c"] ∧
      (ofItems repeatingTree).position? "a" = some 1 ∧
      (ofItems repeatingTree).next? "a" = some "a" ∧
      (ofItems repeatingTree).previous? "b" = none ∧
      (ofItems repeatingTree).next? "c" = none := by
  have hplaces := placesFirst_ofItems repeatingTree
  have ha : IsFirstAt (ofItems repeatingTree).order "a" 1 := ⟨rfl, by decide⟩
  have hb : IsFirstAt (ofItems repeatingTree).order "b" 0 := ⟨rfl, by decide⟩
  have hc : IsFirstAt (ofItems repeatingTree).order "c" 4 := ⟨rfl, by decide⟩
  exact ⟨hplaces.order_eq.trans rfl, (hplaces.position_iff _ _).mpr ha,
    (hplaces.next_iff _ _).mpr ⟨1, ha, rfl⟩, (hplaces.previous_none_iff _ _ hb).mpr rfl,
    (hplaces.next_none_iff _ _ hc).mpr rfl⟩

/-! ### The labels above a document -/

/-- The leaf that a document is found by is the one at its place. -/
theorem exists_mention_of_isFirstAt (hfirst : IsFirstAt (Item.idsOf items) id i) :
    ∃ m, (Item.mentionsOf [] items)[i]? = some m ∧
      (Item.mentionsOf [] items).find? (fun m => m.id = id) = some m := by
  rw [Item.idsOf_eq_map_mentionsOf []] at hfirst
  obtain ⟨hget, hbefore⟩ := hfirst
  rw [List.getElem?_map, Option.map_eq_some_iff] at hget
  obtain ⟨m, hm, hid⟩ := hget
  obtain ⟨hi, heq⟩ := List.getElem?_eq_some_iff.mp hm
  refine ⟨m, hm, List.find?_eq_some_iff_getElem.mpr ⟨by simpa using hid, i, hi, heq, ?_⟩⟩
  intro j hj
  have hne := hbefore j hj
  rw [List.getElem?_map, List.getElem?_eq_getElem (Nat.lt_trans hj hi)] at hne
  simpa using hne

theorem breadcrumbs_eq_nil (hnotMem : id ∉ Item.idsOf items) :
    (ofItems items).breadcrumbs id = [] := by
  have hnone : (Item.mentionsOf [] items).find? (fun m => m.id = id) = none := by
    rw [List.find?_eq_none]
    intro m hm hid
    rw [Item.idsOf_eq_map_mentionsOf []] at hnotMem
    exact hnotMem (List.mem_map.mpr ⟨m, hm, by simpa using hid⟩)
  change (Item.trailToIn? id items).getD [] = []
  rw [Item.trailToIn?_eq, hnone]
  rfl

/-- **The labels above a document are those of its first leaf.** They are the labels of all
categories around the leaf at the position of the document, the outermost first, and as many as the
leaf is deep in the tree. A document that is not in the tree has none. -/
theorem breadcrumbs_ofItems (items : List Item) (id : DocumentId) :
    (∀ i, (ofItems items).position? id = some i →
      ∃ m, (Item.mentionsOf [] items)[i]? = some m ∧ m.id = id ∧
        (ofItems items).breadcrumbs id = m.trail ∧
        (Item.depthsOf 0 items)[i]? = some ((ofItems items).breadcrumbs id).length) ∧
    ((ofItems items).contains id = false → (ofItems items).breadcrumbs id = []) := by
  constructor
  · intro i hposition
    obtain ⟨m, hm, hfind⟩ :=
      exists_mention_of_isFirstAt (position?_eq_some_iff_isFirstAt.mp hposition)
    have htrail : (ofItems items).breadcrumbs id = m.trail := by
      change (Item.trailToIn? id items).getD [] = m.trail
      rw [Item.trailToIn?_eq, hfind]
      rfl
    refine ⟨m, hm, by simpa using List.find?_some hfind, htrail, ?_⟩
    have hdepths := Item.depthsOf_eq_map_mentionsOf [] items
    rw [List.length_nil] at hdepths
    rw [hdepths, List.getElem?_map, hm, htrail, Option.map_some]
  · intro hnot
    refine breadcrumbs_eq_nil fun hmem => ?_
    rw [contains_ofItems.mpr hmem] at hnot
    cases hnot

theorem breadcrumbs_ofItems_sample :
    (ofItems repeatingTree).position? "a" = some 1 ∧
      (ofItems repeatingTree).breadcrumbs "a" = ["Guides", "More"] ∧
      (Item.depthsOf 0 repeatingTree)[1]? = some 2 ∧
      (ofItems repeatingTree).contains "ghost" = false ∧
      (ofItems repeatingTree).breadcrumbs "ghost" = [] := by
  have hposition : (ofItems repeatingTree).position? "a" = some 1 := by decide
  have hghost : (ofItems repeatingTree).contains "ghost" = false := by decide
  obtain ⟨m, hm, -, htrail, hdepth⟩ := (breadcrumbs_ofItems repeatingTree "a").1 1 hposition
  obtain rfl : ⟨"a", some "A", ["Guides", "More"]⟩ = m := Option.some.inj hm
  rw [htrail] at hdepth
  exact ⟨hposition, htrail, hdepth, hghost, (breadcrumbs_ofItems repeatingTree "ghost").2 hghost⟩

end Navigation

end Signpost
