import Signpost.Toml.Value

/-!
# Tables under construction

Tables come about in three ways: by a heading, on the way to one, or by a dotted key. How a table
came about decides where it may be extended. A table or an array that is written as a value is
closed.
-/

namespace Signpost.Toml

inductive Origin where
  | heading
  | way
  | dotted
deriving DecidableEq

inductive Entry where
  | value (value : Value)
  | table (origin : Origin) (entries : List (String × Entry))
  | tables (last : List (String × Entry)) (before : List (List (String × Entry)))
deriving Inhabited

abbrev Entries := List (String × Entry)

namespace Entries

def put (key : String) (entry : Entry) (entries : Entries) : Entries :=
  if (entries.lookup key).isSome then
    entries.map fun (k, e) => if k = key then (k, entry) else (k, e)
  else entries ++ [(key, entry)]

/-- Changes the table at the end of a way. Tables that are missing on the way are made; `dotted`
tells that the way is a dotted key, which may not go through a table with a heading. -/
def alter (dotted : Bool) (change : Origin → Entries → Option Entries) (origin : Origin)
    (entries : Entries) : List String → Option Entries
  | [] => change origin entries
  | key :: way =>
    let fresh : Origin := if dotted then .dotted else .way
    match entries.lookup key with
    | none => do
      let inner ← alter dotted change fresh [] way
      return entries.put key (.table fresh inner)
    | some (.table origin inner) =>
      if dotted && origin = .heading then none
      else do
        let inner ← alter dotted change origin inner way
        return entries.put key (.table origin inner)
    | some (.tables last before) => do
      let last ← alter dotted change .heading last way
      return entries.put key (.tables last before)
    | some (.value _) => none

/-- Puts a value under a key of the table at the end of a dotted way. A way that is not empty has
to end in a table that came about by a dotted key. -/
def insert (way : List String) (key : String) (value : Value) (origin : Origin)
    (entries : Entries) : Option Entries :=
  entries.alter true (fun origin entries =>
    if decide (origin = .dotted) == way.isEmpty || (entries.lookup key).isSome then none
    else some (entries.put key (.value value))) origin way

/-- Opens the table of a heading; it may have come about on the way to another one. -/
def openTable (way : List String) (key : String) (entries : Entries) : Option Entries :=
  entries.alter false (fun _ entries =>
    match entries.lookup key with
    | none => some (entries.put key (.table .heading []))
    | some (.table .way inner) => some (entries.put key (.table .heading inner))
    | some _ => none) .heading way

def openNext (way : List String) (key : String) (entries : Entries) : Option Entries :=
  entries.alter false (fun _ entries =>
    match entries.lookup key with
    | none => some (entries.put key (.tables [] []))
    | some (.tables last before) => some (entries.put key (.tables [] (last :: before)))
    | some _ => none) .heading way

def alterOpened (heading : List String) (change : Entries → Option Entries) (entries : Entries) :
    Option Entries :=
  entries.alter false (fun _ entries => change entries) .heading heading

end Entries

mutual

def Entry.finish : Entry → Value
  | .value value => value
  | .table _ entries => .table (finishEntries entries)
  | .tables last before => .array ((finishTables before).reverse ++ [.table (finishEntries last)])

def finishEntries : List (String × Entry) → List (String × Value)
  | [] => []
  | (key, entry) :: entries => (key, entry.finish) :: finishEntries entries

def finishTables : List (List (String × Entry)) → List Value
  | [] => []
  | entries :: rest => .table (finishEntries entries) :: finishTables rest

end

end Signpost.Toml
