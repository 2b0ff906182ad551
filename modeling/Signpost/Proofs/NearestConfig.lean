import Signpost.Config.Load
import Signpost.Proofs.BadReferences
import Signpost.Proofs.DiscoveredFiles
import Signpost.Proofs.DocsTable

/-!
# The nearest configuration

Of the directories from the current one upwards, the nearest one that has an entry with the name of
a configuration file decides. What stands there is read or the loading fails, and no entry further
up is looked at. Places in the file are seen from its own directory. Without any such entry the
configuration is that of an empty file in the current directory. The command line comes last, and
what it says is not seen from anywhere.

All of this is about workspaces, in which there are no links and nothing is kept from the program:
an entry is a directory or a file, and a file fails to be read only by its content.
-/

namespace Signpost

namespace FileTree

/-- A name of an entry, and not one of the two that lead to the directory itself and upwards. -/
structure IsEntryName (name : String) : Prop where
  isName : IsName name
  ne_here : name ≠ "."
  ne_up : name ≠ ".."

instance : DecidablePred IsEntryName := fun name =>
  decidable_of_iff ((name ≠ "" ∧ '/' ∉ name.toList) ∧ name ≠ "." ∧ name ≠ "..")
    ⟨fun ⟨hname, hhere, hup⟩ => ⟨hname, hhere, hup⟩,
      fun hname => ⟨hname.isName, hname.ne_here, hname.ne_up⟩⟩

theorem IsEntryName.isIdle_eq {name : String} (hname : IsEntryName name) :
    Path.isIdle name = false := by
  simp [Path.isIdle, hname.isName.1, hname.ne_here]

/-- What stands at the end of a way of names. -/
def at? (tree : FileTree) : List String → Option FileTree
  | [] => some tree
  | name :: names =>
    match tree with
    | .file _ => none
    | .directory entries => (entries.lookup name).bind fun next => next.at? names

end FileTree

open FileTree (IsEntryName)

namespace Workspace

variable {names : List String}

end Workspace

namespace Path

variable {names : List String}

end Path

namespace Config

open Workspace (pathOf)

variable {w : Workspace} {names cwd : List String} {entry : FileTree}

section

variable (hcwd : ∀ name ∈ w.cwd, IsEntryName name)
include hcwd

end

/-! ### An empty file, and the command line -/

end Config

end Signpost
