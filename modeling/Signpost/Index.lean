/-!
# Sorted indexes

A finite map from texts to values, listed in increasing order of the keys. Two indexes with the same
values under the same keys are listed alike, whatever the order in which they were filled.
-/

namespace Signpost

/-- A finite map with text keys, in strictly increasing order of its keys. -/
structure Index (α : Type) where
  entries : List (String × α)
  sorted : entries.Pairwise fun a b => a.1 < b.1 := by simp

namespace Index

variable {α : Type}

def empty : Index α := ⟨[], .nil⟩

instance : Inhabited (Index α) := ⟨empty⟩

def insertEntry (key : String) (value : α) : List (String × α) → List (String × α)
  | [] => [(key, value)]
  | (k, v) :: rest =>
    if key < k then (key, value) :: (k, v) :: rest
    else if key = k then (key, value) :: rest
    else (k, v) :: insertEntry key value rest

theorem mem_insertEntry {key : String} {value : α} {entries : List (String × α)}
    {e : String × α} (h : e ∈ insertEntry key value entries) :
    e = (key, value) ∨ e ∈ entries := by
  induction entries with
  | nil => simpa [insertEntry] using h
  | cons entry entries ih =>
    obtain ⟨k, v⟩ := entry
    unfold insertEntry at h
    split at h
    · simpa using h
    · split at h
      · rcases List.mem_cons.1 h with h | h
        · exact .inl h
        · exact .inr (List.mem_cons_of_mem _ h)
      · rcases List.mem_cons.1 h with h | h
        · exact .inr (by simp [h])
        · exact (ih h).imp_right (List.mem_cons_of_mem _)

theorem pairwise_insertEntry (key : String) (value : α) {entries : List (String × α)}
    (h : entries.Pairwise fun a b => a.1 < b.1) :
    (insertEntry key value entries).Pairwise fun a b => a.1 < b.1 := by
  induction entries with
  | nil => simp [insertEntry]
  | cons entry entries ih =>
    obtain ⟨k, v⟩ := entry
    have ⟨hhead, htail⟩ := List.pairwise_cons.1 h
    unfold insertEntry
    split
    · rename_i hlt
      refine List.pairwise_cons.2 ⟨fun e he => ?_, h⟩
      rcases List.mem_cons.1 he with rfl | he
      · exact hlt
      · exact String.lt_trans hlt (hhead e he)
    · rename_i hnlt
      split
      · rename_i heq
        subst heq
        exact List.pairwise_cons.2 ⟨fun e he => hhead e he, htail⟩
      · rename_i hne
        refine List.pairwise_cons.2 ⟨fun e he => ?_, ih htail⟩
        rcases mem_insertEntry he with rfl | he
        · rcases String.le_total key k with hle | hle
          · exact absurd (String.le_antisymm hle (String.not_lt.1 hnlt)) hne
          · exact String.not_le.1 fun hge => hne (String.le_antisymm hge hle)
        · exact hhead e he

def insert (index : Index α) (key : String) (value : α) : Index α :=
  ⟨insertEntry key value index.entries, pairwise_insertEntry key value index.sorted⟩

def get? (index : Index α) (key : String) : Option α :=
  index.entries.lookup key

def contains (index : Index α) (key : String) : Bool :=
  (index.get? key).isSome

def keys (index : Index α) : List String :=
  index.entries.map (·.1)

def values (index : Index α) : List α :=
  index.entries.map (·.2)

def size (index : Index α) : Nat :=
  index.entries.length

def isEmpty (index : Index α) : Bool :=
  index.entries.isEmpty

/-- The index of a list of entries, in which the last of several with one key counts. -/
def ofList (entries : List (String × α)) : Index α :=
  entries.foldl (fun index entry => index.insert entry.1 entry.2) empty

def tryMapEntries {ε β : Type} (f : String → α → Except ε β) :
    List (String × α) → Except ε (List (String × β))
  | [] => .ok []
  | (key, value) :: rest => do
    let changed ← f key value
    let others ← tryMapEntries f rest
    return (key, changed) :: others

theorem keys_tryMapEntries {ε β : Type} {f : String → α → Except ε β}
    {entries : List (String × α)} {changed : List (String × β)}
    (h : tryMapEntries f entries = .ok changed) : changed.map (·.1) = entries.map (·.1) := by
  induction entries generalizing changed with
  | nil =>
    cases h
    rfl
  | cons entry entries ih =>
    obtain ⟨key, value⟩ := entry
    cases hf : f key value with
    | error e => simp [tryMapEntries, hf, bind, Except.bind] at h
    | ok b =>
      cases hrest : tryMapEntries f entries with
      | error e => simp [tryMapEntries, hf, hrest, bind, Except.bind] at h
      | ok others =>
        simp only [tryMapEntries, hf, hrest, bind, Except.bind, pure, Except.pure,
          Except.ok.injEq] at h
        subst h
        simp [ih hrest]

theorem sorted_of_keys {β : Type} {entries : List (String × α)} {changed : List (String × β)}
    (hkeys : changed.map (·.1) = entries.map (·.1))
    (h : entries.Pairwise fun a b => a.1 < b.1) :
    changed.Pairwise fun a b => a.1 < b.1 := by
  have h' : (entries.map (·.1)).Pairwise (· < ·) := List.pairwise_map.2 h
  rw [← hkeys] at h'
  exact List.pairwise_map.1 h'

/-- Changes the values in the order of their keys, up to the first one that cannot be changed. -/
def tryMap {ε β : Type} (index : Index α) (f : String → α → Except ε β) : Except ε (Index β) :=
  match h : tryMapEntries f index.entries with
  | .ok changed => .ok ⟨changed, sorted_of_keys (keys_tryMapEntries h) index.sorted⟩
  | .error e => .error e

end Index

end Signpost
