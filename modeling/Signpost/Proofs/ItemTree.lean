import Signpost.Item
import Signpost.Reference
import Mathlib.Data.List.Basic

/-!
# Trees of items

A tree is read in document order: its leaves with the labels of the categories around them, and the
categories that have no items. Leaving out the leaves of unknown documents takes exactly these
leaves away and moves nothing else.
-/

namespace Signpost

/-- A reference to a document as it stands in a tree. -/
structure Mention where
  id : DocumentId
  label : Option String
  trail : List String
deriving DecidableEq, Repr

/-- The reference as it is reported when its document is unknown. -/
def Mention.unresolved (m : Mention) : Unresolved :=
  ⟨m.id, .sidebar m.trail⟩

namespace Item

mutual

/-- The leaves of an item that stands below a trail of labels. -/
def mentions (trail : List String) : Item → List Mention
  | .doc id label => [⟨id, label, trail⟩]
  | .category label _ items => mentionsOf (trail ++ [label]) items

def mentionsOf (trail : List String) : List Item → List Mention
  | [] => []
  | item :: items => item.mentions trail ++ mentionsOf trail items

end

mutual

/-- The item without the leaves of unknown documents; of such a leaf nothing is left. -/
def prune (known : DocumentId → Bool) : Item → List Item
  | .doc id label => if known id then [.doc id label] else []
  | .category label collapsed items => [.category label collapsed (pruneAll known items)]

def pruneAll (known : DocumentId → Bool) : List Item → List Item
  | [] => []
  | item :: items => item.prune known ++ pruneAll known items

end

mutual

/-- The trails down to the categories without items, in and below an item. -/
def childless (trail : List String) : Item → List (List String)
  | .doc _ _ => []
  | .category label _ items =>
    if items.isEmpty then [trail ++ [label]] else childlessOf (trail ++ [label]) items

def childlessOf (trail : List String) : List Item → List (List String)
  | [] => []
  | item :: items => item.childless trail ++ childlessOf trail items

end

/-- What holds of a forest without its first tree, and of the forest below that tree if it is a
category, holds of every forest. -/
@[elab_as_elim]
theorem forestInduction {motive : List Item → Prop} (nil : motive [])
    (doc : ∀ id label rest, motive rest → motive (.doc id label :: rest))
    (category : ∀ label collapsed items rest, motive items → motive rest →
      motive (.category label collapsed items :: rest)) : ∀ items, motive items
  | [] => nil
  | .doc id label :: rest => doc id label rest (forestInduction nil doc category rest)
  | .category label collapsed items :: rest =>
    category label collapsed items rest (forestInduction nil doc category items)
      (forestInduction nil doc category rest)

variable (known : DocumentId → Bool) (trail : List String)

theorem idsOf_append (front back : List Item) :
    idsOf (front ++ back) = idsOf front ++ idsOf back := by
  induction front with
  | nil => simp [idsOf]
  | cons item items ih => simp [idsOf, ih]

theorem mentionsOf_append (front back : List Item) :
    mentionsOf trail (front ++ back) = mentionsOf trail front ++ mentionsOf trail back := by
  induction front with
  | nil => simp [mentionsOf]
  | cons item items ih => simp [mentionsOf, ih]

theorem pruneAll_append (front back : List Item) :
    pruneAll known (front ++ back) = pruneAll known front ++ pruneAll known back := by
  induction front with
  | nil => simp [pruneAll]
  | cons item items ih => simp [pruneAll, ih]

theorem childlessOf_append (front back : List Item) :
    childlessOf trail (front ++ back) = childlessOf trail front ++ childlessOf trail back := by
  induction front with
  | nil => simp [childlessOf]
  | cons item items ih => simp [childlessOf, ih]

theorem idsOf_eq_map_mentionsOf (items : List Item) :
    idsOf items = (mentionsOf trail items).map (·.id) := by
  induction items using forestInduction generalizing trail with
  | nil => rfl
  | doc id label rest ih => simpa [idsOf, ids, mentionsOf, mentions] using ih trail
  | category label collapsed items rest ihItems ihRest =>
      simp only [idsOf, ids, mentionsOf, mentions, List.map_append]
      rw [ihItems (trail ++ [label]), ihRest trail]

/-- Pruning keeps the leaves of the known documents, each with the labels around it. -/
theorem mentionsOf_pruneAll (items : List Item) :
    mentionsOf trail (pruneAll known items) =
      (mentionsOf trail items).filter fun m => known m.id := by
  induction items using forestInduction generalizing trail with
  | nil => rfl
  | doc id label rest ih =>
      rw [pruneAll, mentionsOf_append, ih trail, mentionsOf, List.filter_append]
      by_cases hknown : known id <;> simp [prune, mentions, mentionsOf, hknown]
  | category label collapsed items rest ihItems ihRest =>
      rw [pruneAll, mentionsOf_append, ihRest trail, mentionsOf, List.filter_append]
      simp only [prune, mentions, mentionsOf, List.append_nil]
      rw [ihItems (trail ++ [label])]

theorem idsOf_pruneAll (items : List Item) :
    idsOf (pruneAll known items) = (idsOf items).filter known := by
  rw [idsOf_eq_map_mentionsOf [], mentionsOf_pruneAll, idsOf_eq_map_mentionsOf [] items,
    List.filter_map]
  rfl

theorem pruneAll_eq_self {known : DocumentId → Bool} {items : List Item}
    (hknown : ∀ id ∈ idsOf items, known id = true) : pruneAll known items = items := by
  induction items using forestInduction with
  | nil => rfl
  | doc id label rest ih =>
      simp only [idsOf, ids, List.mem_append, List.mem_singleton] at hknown
      rw [pruneAll, ih fun other hother => hknown other (.inr hother), prune,
        if_pos (hknown id (.inl rfl))]
      rfl
  | category label collapsed items rest ihItems ihRest =>
      simp only [idsOf, ids, List.mem_append] at hknown
      rw [pruneAll, prune, ihItems fun id hid => hknown id (.inl hid),
        ihRest fun id hid => hknown id (.inr hid)]
      rfl

end Item

end Signpost
