import Signpost.Item
import Signpost.Index

/-!
# Navigations

A navigation is a tree of items together with the order in which its documents are read, depth
first. Every document has a place in that order: its position and its neighbours, which are kept in
two indexes. Of a document that occurs more than once the first occurrence counts.
-/

namespace Signpost

/-- The documents right before and right after a document. -/
structure Neighbours where
  previous : Option DocumentId
  next : Option DocumentId
deriving DecidableEq, Repr

/-- The neighbours and the positions of documents, each under their ids. -/
structure Places where
  links : Index Neighbours := Index.empty
  positions : Index Nat := Index.empty

structure Navigation where
  items : List Item
  order : List DocumentId
  links : Index Neighbours
  positions : Index Nat

namespace Places

/-- Enters a document, unless it has a position already. -/
def enter (places : Places) (id : DocumentId) (position : Nat) (neighbours : Neighbours) :
    Places :=
  if places.positions.contains id then places
  else
    { links := places.links.insert id neighbours
      positions := places.positions.insert id position }

/-- Enters the documents of an order that goes on at the given position. -/
def enterAll (places : Places) (position : Nat) (previous : Option DocumentId) :
    List DocumentId → Places
  | [] => places
  | id :: rest =>
    (places.enter id position ⟨previous, rest.head?⟩).enterAll (position + 1) (some id) rest

end Places

namespace Navigation

def ofItems (items : List Item) : Navigation :=
  let order := Item.idsOf items
  let places := Places.enterAll {} 0 none order
  ⟨items, order, places.links, places.positions⟩

def neighbours? (nav : Navigation) (id : DocumentId) : Option Neighbours :=
  nav.links.get? id

def contains (nav : Navigation) (id : DocumentId) : Bool :=
  nav.positions.contains id

def position? (nav : Navigation) (id : DocumentId) : Option Nat :=
  nav.positions.get? id

def previous? (nav : Navigation) (id : DocumentId) : Option DocumentId :=
  (nav.neighbours? id).bind (·.previous)

def next? (nav : Navigation) (id : DocumentId) : Option DocumentId :=
  (nav.neighbours? id).bind (·.next)

def breadcrumbs (nav : Navigation) (id : DocumentId) : List String :=
  (Item.trailToIn? id nav.items).getD []

def length (nav : Navigation) : Nat :=
  nav.order.length

end Navigation

end Signpost
