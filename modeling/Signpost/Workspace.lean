import Signpost.Path
import Signpost.Text.Utf8

/-!
# Workspaces

What the program sees of its surroundings: a tree of files and directories, the directory that it
runs in, and the environment. Looking a path up follows its pieces one by one, and every piece has
to be looked up in a directory.

There are no links in the tree, and nothing in it is kept from the program. Names and the values in
the environment are texts.
-/

namespace Signpost

inductive FileTree where
  | file (content : List UInt8)
  | directory (entries : List (String × FileTree))
deriving Inhabited

mutual

/-- The tree with something put at the end of a way of names. Directories that are missing on the
way are made, and a file on the way makes room for one. -/
def FileTree.put (names : List String) (what : FileTree) (tree : FileTree) : FileTree :=
  match names with
  | [] => what
  | name :: names =>
    match tree with
    | .directory entries => .directory (FileTree.putEntry name names what entries)
    | .file _ => .directory (FileTree.putEntry name names what [])

def FileTree.putEntry (name : String) (names : List String) (what : FileTree)
    (entries : List (String × FileTree)) : List (String × FileTree) :=
  match entries with
  | [] => [(name, FileTree.put names what (.directory []))]
  | (other, tree) :: entries =>
    if other = name then (other, FileTree.put names what tree) :: entries
    else (other, tree) :: FileTree.putEntry name names what entries

end

inductive ReadError where
  | notFound
  | notDirectory
  | isDirectory
  | notText
deriving DecidableEq, Repr

def ReadError.message : ReadError → String
  | .notFound => "No such file or directory (os error 2)"
  | .notDirectory => "Not a directory (os error 20)"
  | .isDirectory => "Is a directory (os error 21)"
  | .notText => "stream did not contain valid UTF-8"

structure Workspace where
  root : FileTree
  cwd : List String
  env : List (String × String)

namespace Workspace

/-- A point in the tree: what stands there, and the directories above it, nearest first. -/
structure Cursor where
  here : FileTree
  above : List FileTree

def Cursor.step (c : Cursor) (piece : String) : Except ReadError Cursor :=
  match c.here with
  | .file _ => .error .notDirectory
  | .directory entries =>
    if Path.isIdle piece then .ok c
    else if piece = ".." then
      match c.above with
      | [] => .ok c
      | parent :: rest => .ok ⟨parent, rest⟩
    else
      match entries.lookup piece with
      | some next => .ok ⟨next, c.here :: c.above⟩
      | none => .error .notFound

def Cursor.walk (c : Cursor) : List String → Except ReadError Cursor
  | [] => .ok c
  | piece :: pieces =>
    match c.step piece with
    | .ok next => next.walk pieces
    | .error e => .error e

def top (w : Workspace) : Cursor := ⟨w.root, []⟩

def find (w : Workspace) (path : Path) : Except ReadError FileTree :=
  let pieces := Text.cut '/' path.text
  let found :=
    if path.text = "" then .error .notFound
    else if path.isAbsolute then w.top.walk pieces
    else
      match w.top.walk w.cwd with
      | .ok c => c.walk pieces
      | .error e => .error e
  found.map (·.here)

def pathExists (w : Workspace) (path : Path) : Bool :=
  (w.find path).toOption.isSome

def readText (w : Workspace) (path : Path) : Except ReadError String :=
  match w.find path with
  | .error e => .error e
  | .ok (.directory _) => .error .isDirectory
  | .ok (.file content) =>
    match Text.decodeStrict content with
    | some text => .ok text
    | none => .error .notText

def pathOf (names : List String) : Path :=
  ⟨"/" ++ Text.join "/" names⟩

def currentDir (w : Workspace) : Path :=
  pathOf w.cwd

def environment? (w : Workspace) (name : String) : Option String :=
  w.env.lookup name

end Workspace

end Signpost
