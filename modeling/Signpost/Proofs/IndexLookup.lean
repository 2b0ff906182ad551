import Signpost.Index
import Signpost.Proofs.FirstFailure
import Mathlib.Data.List.Nodup

/-!
# Looking up what was put into an index

An insertion changes the value under one key and no other. Two indexes in which the same keys are
found list the same keys.
-/

namespace Signpost.Index

variable {α : Type}

theorem lookup_cons_eq_ite (key other : String) (value : α) (entries : List (String × α)) :
    ((key, value) :: entries).lookup other =
      if other = key then some value else entries.lookup other := by
  by_cases heq : other = key
  · rw [heq, List.lookup_cons_self, if_pos rfl]
  · rw [List.lookup_cons, beq_false_of_ne heq, if_neg heq]

theorem lookup_insertEntry (key other : String) (value : α) (entries : List (String × α)) :
    (insertEntry key value entries).lookup other =
      if other = key then some value else entries.lookup other := by
  induction entries with
  | nil => rw [insertEntry, lookup_cons_eq_ite]
  | cons entry entries ih =>
      obtain ⟨k, v⟩ := entry
      unfold insertEntry
      split
      · rw [lookup_cons_eq_ite]
      · split
        · rename_i heq
          subst heq
          by_cases hother : other = key <;> simp [lookup_cons_eq_ite, hother]
        · rename_i hne
          rw [lookup_cons_eq_ite, lookup_cons_eq_ite, ih]
          by_cases hother : other = key
          · subst hother
            rw [if_pos rfl, if_neg hne, if_pos rfl]
          · simp only [if_neg hother]

@[simp]
theorem get?_empty (key : String) : (empty : Index α).get? key = none := rfl

theorem get?_insert (index : Index α) (key other : String) (value : α) :
    (index.insert key value).get? other = if other = key then some value else index.get? other :=
  lookup_insertEntry key other value index.entries

theorem mem_keys_iff {index : Index α} {key : String} :
    key ∈ index.keys ↔ index.contains key = true := by
  rw [contains, get?, List.lookup_isSome_iff, keys, List.mem_map]
  constructor
  · rintro ⟨entry, hmem, rfl⟩
    exact ⟨entry, hmem, beq_self_eq_true _⟩
  · rintro ⟨entry, hmem, hkey⟩
    exact ⟨entry, hmem, (eq_of_beq hkey).symm⟩

theorem sorted_keys (index : Index α) : index.keys.Pairwise (· < ·) :=
  List.pairwise_map.mpr index.sorted

theorem nodup_keys (index : Index α) : index.keys.Nodup := by
  refine index.sorted_keys.imp fun {first second} hlt heq => ?_
  subst heq
  exact String.lt_irrefl first hlt

/-- Indexes of any values list the same keys if they have the same keys. -/
theorem keys_eq_of_contains_eq {β : Type} {index : Index α} {other : Index β}
    (hsame : ∀ key, index.contains key = other.contains key) : index.keys = other.keys := by
  have hperm : index.keys.Perm other.keys := by
    rw [List.perm_ext_iff_of_nodup (nodup_keys index) (nodup_keys other)]
    intro key
    rw [mem_keys_iff, mem_keys_iff, hsame]
  exact hperm.eq_of_pairwise (fun first second _ _ hlt hgt => absurd hgt (String.lt_asymm hlt))
    index.sorted_keys other.sorted_keys

/-- Where no key stands twice, looking up a key finds the entry that has it. -/
theorem lookup_eq_some_iff_mem {entries : List (String × α)} (hnodup : (entries.map (·.1)).Nodup)
    {key : String} {value : α} : entries.lookup key = some value ↔ (key, value) ∈ entries := by
  constructor
  · intro hlookup
    obtain ⟨front, back, hentries, -⟩ := List.lookup_eq_some_iff.mp hlookup
    simp [hentries]
  · intro hmem
    have hkey : (entries.lookup key).isSome = true :=
      List.lookup_isSome_iff.mpr ⟨(key, value), hmem, beq_self_eq_true key⟩
    obtain ⟨found, hfound⟩ := Option.isSome_iff_exists.mp hkey
    obtain ⟨front, back, hentries, -⟩ := List.lookup_eq_some_iff.mp hfound
    have hother : (key, found) ∈ entries := by simp [hentries]
    have hsame := List.inj_on_of_nodup_map hnodup hmem hother rfl
    rw [hfound, ← (Prod.mk.inj hsame).2]

theorem get?_eq_some_iff {index : Index α} {key : String} {value : α} :
    index.get? key = some value ↔ (key, value) ∈ index.entries :=
  lookup_eq_some_iff_mem (nodup_keys index)

/-- Entries that are put in one after the other are all found if no key stands twice. -/
theorem get?_foldl_insert {entries : List (String × α)} (hnodup : (entries.map (·.1)).Nodup)
    (index : Index α) (key : String) :
    (entries.foldl (fun index entry => index.insert entry.1 entry.2) index).get? key =
      (entries.lookup key).or (index.get? key) := by
  induction entries generalizing index with
  | nil => rfl
  | cons entry entries ih =>
      obtain ⟨k, v⟩ := entry
      obtain ⟨hnotMem, hrest⟩ := List.nodup_cons.mp hnodup
      rw [List.foldl_cons, ih hrest, get?_insert, lookup_cons_eq_ite]
      by_cases hkey : key = k
      · subst hkey
        have hnone : entries.lookup key = none := by
          rw [List.lookup_eq_none_iff]
          intro entry hentry
          have hne : key ≠ entry.1 := fun heq =>
            hnotMem (List.mem_map.mpr ⟨entry, hentry, heq.symm⟩)
          simpa using hne
        rw [hnone, if_pos rfl, if_pos rfl, Option.none_or, Option.some_or]
      · rw [if_neg hkey, if_neg hkey]

/-- An index of a list in which no key stands twice has the entries of the list. -/
theorem entries_ofList_perm {entries : List (String × α)} (hnodup : (entries.map (·.1)).Nodup) :
    (ofList entries).entries.Perm entries := by
  rw [List.perm_ext_iff_of_nodup (nodup_keys (ofList entries)).of_map hnodup.of_map]
  rintro ⟨key, value⟩
  rw [← get?_eq_some_iff, ofList, get?_foldl_insert hnodup, get?_empty, Option.or_none,
    lookup_eq_some_iff_mem hnodup]

/-- Changes that can all be made leave every value under its key. -/
theorem exists_of_mem_of_tryMapEntries {ε β : Type} {f : String → α → Except ε β}
    {entries : List (String × α)} {changed : List (String × β)}
    (hchanged : tryMapEntries f entries = .ok changed) {key : String} {value : α}
    (hmem : (key, value) ∈ entries) :
    ∃ after, f key value = .ok after ∧ (key, after) ∈ changed := by
  induction entries generalizing changed with
  | nil => cases hmem
  | cons entry entries ih =>
      obtain ⟨first, hfirst, hrest⟩ := bind_eq_ok_iff.mp hchanged
      obtain ⟨others, hothers, hpure⟩ := bind_eq_ok_iff.mp hrest
      cases hpure
      rcases List.mem_cons.mp hmem with rfl | hmem
      · exact ⟨first, hfirst, List.mem_cons_self⟩
      · obtain ⟨after, hafter, hafterMem⟩ := ih hothers hmem
        exact ⟨after, hafter, List.mem_cons_of_mem _ hafterMem⟩

theorem tryMapEntries_of_tryMap {ε β : Type} {f : String → α → Except ε β} {index : Index α}
    {changed : Index β} (hchanged : index.tryMap f = .ok changed) :
    tryMapEntries f index.entries = .ok changed.entries := by
  unfold tryMap at hchanged
  split at hchanged
  · rename_i entries hentries
    cases hchanged
    exact hentries
  · cases hchanged

theorem keys_tryMap {ε β : Type} {f : String → α → Except ε β} {index : Index α}
    {changed : Index β} (hchanged : index.tryMap f = .ok changed) : changed.keys = index.keys :=
  keys_tryMapEntries (tryMapEntries_of_tryMap hchanged)

theorem get?_tryMap {ε β : Type} {f : String → α → Except ε β} {index : Index α}
    {changed : Index β} (hchanged : index.tryMap f = .ok changed) {key : String} {value : α}
    (hget : index.get? key = some value) :
    ∃ after, f key value = .ok after ∧ changed.get? key = some after := by
  obtain ⟨after, hafter, hmem⟩ := exists_of_mem_of_tryMapEntries (tryMapEntries_of_tryMap hchanged)
    (get?_eq_some_iff.mp hget)
  exact ⟨after, hafter, get?_eq_some_iff.mpr hmem⟩

/-- An index is determined by what is found in it. -/
theorem eq_of_get?_eq {index other : Index α} (hget : ∀ key, index.get? key = other.get? key) :
    index = other := by
  have hnodup (index : Index α) : index.entries.Nodup := (nodup_keys index).of_map
  have hperm : index.entries.Perm other.entries := by
    rw [List.perm_ext_iff_of_nodup (hnodup index) (hnodup other)]
    rintro ⟨key, value⟩
    rw [← get?_eq_some_iff, ← get?_eq_some_iff, hget]
  have hentries : index.entries = other.entries :=
    hperm.eq_of_pairwise (fun first second _ _ hlt hgt => absurd hgt (String.lt_asymm hlt))
      index.sorted other.sorted
  cases index
  cases other
  congr

end Signpost.Index
