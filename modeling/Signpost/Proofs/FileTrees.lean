import Signpost.Workspace
import Signpost.Proofs.CutAndJoin
import Signpost.Proofs.IndexLookup
import Mathlib.Data.List.Nodup

/-!
# Trees of files

The files of a tree are found at the ends of ways of names. In which order a directory lists its
entries is of no importance for this, as long as it lists no name twice: every way leads to the same
file before and after a rearrangement. Looking up a path may go up and down, but it never leaves the
trees that it started from.
-/

namespace Signpost

namespace FileTree

theorem induction {motive : FileTree → Prop} (file : ∀ content, motive (.file content))
    (directory : ∀ entries, (∀ entry ∈ entries, motive entry.2) → motive (.directory entries)) :
    ∀ tree, motive tree
  | .file content => file content
  | .directory entries => directory entries fun entry _ => induction file directory entry.2
termination_by tree => tree
decreasing_by
  obtain ⟨name, tree⟩ := entry
  have hentry : sizeOf (name, tree) < sizeOf entries := List.sizeOf_lt_of_mem ‹_›
  simp only [Prod.mk.sizeOf_spec, FileTree.directory.sizeOf_spec] at hentry ⊢
  omega

/-- A name that a directory can hold. -/
def IsName (name : String) : Prop :=
  name ≠ "" ∧ '/' ∉ name.toList

/-- All names in the tree are names that a directory can hold. -/
inductive ProperlyNamed : FileTree → Prop where
  | file (content : List UInt8) : ProperlyNamed (.file content)
  | directory {entries : List (String × FileTree)} :
      (∀ entry ∈ entries, IsName entry.1) → (∀ entry ∈ entries, ProperlyNamed entry.2) →
        ProperlyNamed (.directory entries)

/-- No directory in the tree lists a name twice. -/
inductive Distinct : FileTree → Prop where
  | file (content : List UInt8) : Distinct (.file content)
  | directory {entries : List (String × FileTree)} :
      (entries.map (·.1)).Nodup → (∀ entry ∈ entries, Distinct entry.2) →
        Distinct (.directory entries)

/-- The names lead down to a file with this content. -/
inductive HasFile : FileTree → List String → List UInt8 → Prop where
  | here (content : List UInt8) : HasFile (.file content) [] content
  | inside {entries : List (String × FileTree)} {name : String} {tree : FileTree}
      {names : List String} {content : List UInt8} :
      (name, tree) ∈ entries → HasFile tree names content →
        HasFile (.directory entries) (name :: names) content

/-- The same tree, with the entries of each directory in any order. -/
inductive Rearranged : FileTree → FileTree → Prop where
  | refl (tree : FileTree) : Rearranged tree tree
  | reorder {entries others : List (String × FileTree)} :
      entries.Perm others → Rearranged (.directory entries) (.directory others)
  | inside {name : String} {tree other : FileTree} {front back : List (String × FileTree)} :
      Rearranged tree other →
        Rearranged (.directory (front ++ (name, tree) :: back))
          (.directory (front ++ (name, other) :: back))
  | trans {tree middle other : FileTree} :
      Rearranged tree middle → Rearranged middle other → Rearranged tree other

@[simp]
theorem properlyNamed_file (content : List UInt8) : ProperlyNamed (.file content) :=
  .file content

@[simp]
theorem properlyNamed_directory_iff {entries : List (String × FileTree)} :
    ProperlyNamed (.directory entries) ↔
      ∀ entry ∈ entries, IsName entry.1 ∧ entry.2.ProperlyNamed := by
  constructor
  · rintro (_ | ⟨hnames, hbelow⟩) entry hentry
    exact ⟨hnames entry hentry, hbelow entry hentry⟩
  · intro hall
    exact .directory (fun entry hentry => (hall entry hentry).1)
      fun entry hentry => (hall entry hentry).2

@[simp]
theorem distinct_file (content : List UInt8) : Distinct (.file content) :=
  .file content

@[simp]
theorem distinct_directory_iff {entries : List (String × FileTree)} :
    Distinct (.directory entries) ↔
      (entries.map (·.1)).Nodup ∧ ∀ entry ∈ entries, entry.2.Distinct := by
  constructor
  · rintro (_ | ⟨hnodup, hbelow⟩)
    exact ⟨hnodup, hbelow⟩
  · rintro ⟨hnodup, hbelow⟩
    exact .directory hnodup hbelow

variable {tree other : FileTree} {entries : List (String × FileTree)} {names : List String}
  {content : List UInt8}

@[simp]
theorem hasFile_file_iff {text : List UInt8} :
    HasFile (.file text) names content ↔ names = [] ∧ content = text := by
  constructor
  · rintro ⟨⟩
    exact ⟨rfl, rfl⟩
  · rintro ⟨rfl, rfl⟩
    exact .here content

theorem hasFile_directory_iff :
    HasFile (.directory entries) names content ↔
      ∃ entry ∈ entries, ∃ rest, names = entry.1 :: rest ∧ entry.2.HasFile rest content := by
  constructor
  · rintro (_ | ⟨hentry, hfile⟩)
    exact ⟨_, hentry, _, rfl, hfile⟩
  · rintro ⟨entry, hentry, rest, rfl, hfile⟩
    exact .inside hentry hfile

theorem HasFile.isName (hfile : tree.HasFile names content) (hproper : tree.ProperlyNamed) :
    ∀ name ∈ names, IsName name := by
  induction hfile with
  | here => simp
  | inside hentry _ ih =>
      obtain ⟨hname, htree⟩ := properlyNamed_directory_iff.mp hproper _ hentry
      exact List.forall_mem_cons.mpr ⟨hname, ih htree⟩

/-! ### Rearranging -/

namespace Rearranged

theorem hasFile (hsame : tree.Rearranged other) (hfile : tree.HasFile names content) :
    other.HasFile names content := by
  induction hsame generalizing names with
  | refl => exact hfile
  | reorder hperm =>
      obtain ⟨entry, hentry, rest, rfl, hbelow⟩ := hasFile_directory_iff.mp hfile
      exact hasFile_directory_iff.mpr ⟨entry, hperm.mem_iff.mp hentry, rest, rfl, hbelow⟩
  | @inside name tree other front back _ ih =>
      obtain ⟨entry, hentry, rest, rfl, hbelow⟩ := hasFile_directory_iff.mp hfile
      rw [List.mem_append, List.mem_cons] at hentry
      apply hasFile_directory_iff.mpr
      rcases hentry with hfront | rfl | hback
      · exact ⟨entry, List.mem_append_left _ hfront, rest, rfl, hbelow⟩
      · exact ⟨(name, other), by simp, rest, rfl, ih hbelow⟩
      · exact ⟨entry, by simp [hback], rest, rfl, hbelow⟩
  | trans _ _ ihfirst ihsecond => exact ihsecond (ihfirst hfile)

theorem symm (hsame : tree.Rearranged other) : other.Rearranged tree := by
  induction hsame with
  | refl tree => exact .refl tree
  | reorder hperm => exact .reorder hperm.symm
  | inside _ ih => exact .inside ih
  | trans _ _ ihfirst ihsecond => exact .trans ihsecond ihfirst

theorem hasFile_iff (hsame : tree.Rearranged other) :
    tree.HasFile names content ↔ other.HasFile names content :=
  ⟨hsame.hasFile, hsame.symm.hasFile⟩

theorem properlyNamed (hsame : tree.Rearranged other) (hproper : tree.ProperlyNamed) :
    other.ProperlyNamed := by
  induction hsame with
  | refl => exact hproper
  | reorder hperm =>
      rw [properlyNamed_directory_iff] at hproper ⊢
      exact fun entry hentry => hproper entry (hperm.mem_iff.mpr hentry)
  | inside _ ih =>
      rw [properlyNamed_directory_iff] at hproper ⊢
      rw [List.forall_mem_append, List.forall_mem_cons] at hproper ⊢
      obtain ⟨hfront, ⟨hname, htree⟩, hback⟩ := hproper
      exact ⟨hfront, ⟨hname, ih htree⟩, hback⟩
  | trans _ _ ihfirst ihsecond => exact ihsecond (ihfirst hproper)

theorem distinct (hsame : tree.Rearranged other) (hdistinct : tree.Distinct) : other.Distinct := by
  induction hsame with
  | refl => exact hdistinct
  | reorder hperm =>
      obtain ⟨hnodup, hbelow⟩ := distinct_directory_iff.mp hdistinct
      exact .directory ((hperm.map _).nodup_iff.mp hnodup)
        fun entry hentry => hbelow entry (hperm.mem_iff.mpr hentry)
  | inside _ ih =>
      obtain ⟨hnodup, hbelow⟩ := distinct_directory_iff.mp hdistinct
      rw [List.forall_mem_append, List.forall_mem_cons] at hbelow
      obtain ⟨hfront, htree, hback⟩ := hbelow
      refine .directory (by simpa using hnodup) ?_
      rw [List.forall_mem_append, List.forall_mem_cons]
      exact ⟨hfront, ih htree, hback⟩
  | trans _ _ ihfirst ihsecond => exact ihsecond (ihfirst hdistinct)

end Rearranged

end FileTree

namespace Workspace

/-! ### Looking up a path -/

/-- The place where the way of a path begins. -/
def start (w : Workspace) (path : Path) : Except ReadError Cursor :=
  if path.isAbsolute then .ok w.top else w.top.walk w.cwd

theorem find_eq_ok_iff {w : Workspace} {path : Path} {tree : FileTree} :
    w.find path = .ok tree ↔
      path.text ≠ "" ∧ ∃ first last, w.start path = .ok first ∧
        first.walk (Text.cut '/' path.text) = .ok last ∧ last.here = tree := by
  by_cases hempty : path.text = ""
  · simp [find, hempty, Except.map]
  · cases habsolute : path.isAbsolute
    · cases hcwd : w.top.walk w.cwd with
      | error e => simp [find, start, hempty, habsolute, hcwd, Except.map]
      | ok first =>
          cases hwalk : first.walk (Text.cut '/' path.text) <;>
            simp [find, start, hempty, habsolute, hcwd, hwalk, Except.map]
    · cases hwalk : w.top.walk (Text.cut '/' path.text) <;>
        simp [find, start, hempty, habsolute, hwalk, Except.map]

theorem Cursor.walk_cons_eq_ok_iff {c last : Cursor} {piece : String} {pieces : List String} :
    c.walk (piece :: pieces) = .ok last ↔
      ∃ next, c.step piece = .ok next ∧ next.walk pieces = .ok last := by
  rw [walk]
  cases c.step piece <;> simp

theorem Cursor.walk_append_eq_ok_iff {c last : Cursor} {pieces more : List String} :
    c.walk (pieces ++ more) = .ok last ↔
      ∃ middle, c.walk pieces = .ok middle ∧ middle.walk more = .ok last := by
  induction pieces generalizing c with
  | nil => simp [walk]
  | cons piece pieces ih =>
      rw [List.cons_append, walk, walk]
      cases c.step piece with
      | error e => simp
      | ok next => exact ih

/-- Pieces that are idle lead nowhere else. -/
theorem Cursor.eq_of_walk_idle {c last : Cursor} {pieces : List String}
    (hidle : ∀ piece ∈ pieces, Path.isIdle piece = true) (hwalk : c.walk pieces = .ok last) :
    last = c := by
  induction pieces with
  | nil =>
      cases hwalk
      rfl
  | cons piece pieces ih =>
      obtain ⟨hpiece, hrest⟩ := List.forall_mem_cons.mp hidle
      obtain ⟨next, hstep, hnext⟩ := walk_cons_eq_ok_iff.mp hwalk
      have hsame : next = c := by
        obtain ⟨here, above⟩ := c
        cases here <;> simp_all [step]
      subst hsame
      exact ih hrest hnext

section Hereditary

variable {P : FileTree → Prop}

/-- Something holds of the tree at a cursor and of all trees above it. -/
def Cursor.Holds (P : FileTree → Prop) (c : Cursor) : Prop :=
  P c.here ∧ ∀ tree ∈ c.above, P tree

theorem Cursor.holds_step
    (hbelow : ∀ entries, P (.directory entries) → ∀ entry ∈ entries, P entry.2) {c next : Cursor}
    {piece : String} (hc : c.Holds P) (hstep : c.step piece = .ok next) : next.Holds P := by
  obtain ⟨here, above⟩ := c
  obtain ⟨hhere, habove⟩ := hc
  cases here with
  | file content => simp [step] at hstep
  | directory entries =>
      simp only [step] at hstep
      split at hstep
      · cases hstep
        exact ⟨hhere, habove⟩
      · split at hstep
        · cases above with
          | nil =>
              cases hstep
              exact ⟨hhere, habove⟩
          | cons parent rest =>
              cases hstep
              exact ⟨habove parent List.mem_cons_self,
                fun tree htree => habove tree (List.mem_cons_of_mem parent htree)⟩
        · cases hlookup : entries.lookup piece with
          | none => simp [hlookup] at hstep
          | some tree =>
              simp only [hlookup, Except.ok.injEq] at hstep
              obtain ⟨front, back, hentries, _⟩ := List.lookup_eq_some_iff.mp hlookup
              have hmem : (piece, tree) ∈ entries := by simp [hentries]
              subst hstep
              refine ⟨hbelow entries hhere (piece, tree) hmem, fun other hother => ?_⟩
              rcases List.mem_cons.mp hother with rfl | hother
              · exact hhere
              · exact habove other hother

theorem Cursor.holds_walk
    (hbelow : ∀ entries, P (.directory entries) → ∀ entry ∈ entries, P entry.2) {c last : Cursor}
    {pieces : List String} (hc : c.Holds P) (hwalk : c.walk pieces = .ok last) : last.Holds P := by
  induction pieces generalizing c with
  | nil =>
      cases hwalk
      exact hc
  | cons piece pieces ih =>
      obtain ⟨next, hstep, hrest⟩ := walk_cons_eq_ok_iff.mp hwalk
      exact ih (holds_step hbelow hc hstep) hrest

/-- What a directory hands down to its entries holds wherever a path leads. -/
theorem find_of_hereditary
    (hbelow : ∀ entries, P (.directory entries) → ∀ entry ∈ entries, P entry.2) {w : Workspace}
    {path : Path} {tree : FileTree} (hroot : P w.root) (hfind : w.find path = .ok tree) :
    P tree := by
  obtain ⟨-, first, last, hstart, hwalk, rfl⟩ := find_eq_ok_iff.mp hfind
  have htop : w.top.Holds P := ⟨hroot, by simp [top]⟩
  have hfirst : first.Holds P := by
    unfold start at hstart
    split at hstart
    · cases hstart
      exact htop
    · exact Cursor.holds_walk hbelow htop hstart
  exact (Cursor.holds_walk hbelow hfirst hwalk).1

end Hereditary

theorem properlyNamed_find {w : Workspace} {path : Path} {tree : FileTree}
    (hroot : w.root.ProperlyNamed) (hfind : w.find path = .ok tree) : tree.ProperlyNamed :=
  find_of_hereditary (fun _ hproper entry hentry =>
    (FileTree.properlyNamed_directory_iff.mp hproper entry hentry).2) hroot hfind

/-- A walk down a way of names ends at the file that is there. -/
theorem Cursor.walk_of_hasFile {c : Cursor} {names : List String} {content : List UInt8}
    (hfile : c.here.HasFile names content) (hdistinct : c.here.Distinct)
    (hnames : ∀ name ∈ names, Path.isIdle name = false ∧ name ≠ "..") :
    ∃ last, c.walk names = .ok last ∧ last.here = .file content := by
  obtain ⟨here, above⟩ := c
  dsimp only at hfile hdistinct
  induction hfile generalizing above with
  | here content => exact ⟨_, rfl, rfl⟩
  | @inside entries name tree names content hentry _ ih =>
      obtain ⟨hnodup, hbelow⟩ := FileTree.distinct_directory_iff.mp hdistinct
      obtain ⟨⟨hbusy, hup⟩, hrest⟩ := List.forall_mem_cons.mp hnames
      have hlookup : entries.lookup name = some tree :=
        (Index.lookup_eq_some_iff_mem hnodup).mpr hentry
      obtain ⟨last, hlast, hhere⟩ := ih hrest (.directory entries :: above) (hbelow _ hentry)
      refine ⟨last, ?_, hhere⟩
      rw [walk_cons_eq_ok_iff]
      refine ⟨⟨tree, .directory entries :: above⟩, ?_, hlast⟩
      simp [step, hbusy, hup, hlookup]

end Workspace

end Signpost
