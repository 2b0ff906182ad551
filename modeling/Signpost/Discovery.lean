import Signpost.FrontMatter
import Signpost.Index
import Signpost.Markdown.Inline
import Signpost.Registry
import Signpost.Title
import Signpost.Workspace

/-!
# Finding the documents

Every Markdown file below the docs directory is a document, except where a name on the way to it
begins with a dot. Its id is its path without the extension; front matter may replace the last part
of the id. Its title is that of the front matter, of the first heading, or of its name.
-/

namespace Signpost

inductive FrontMatterFault where
  | invalid
  | slashInId (id : String)
  | emptyId
deriving DecidableEq, Repr

def FrontMatterFault.message : FrontMatterFault → String
  | .invalid => "Invalid YAML:"
  | .slashInId id => "id '" ++ id ++ "' cannot contain '/'"
  | .emptyId => "id cannot be empty"

namespace Discovery

def extensions : List String := ["md", "mdx"]

def isDocument (name : String) : Bool :=
  (Path.splitName name).2.any extensions.contains

def isHidden (name : String) : Bool :=
  Text.beginsWith name "."

mutual

def documentsAt (dir name : String) (tree : FileTree) : List String :=
  match tree with
  | .file _ => if isDocument name then [dir ++ name] else []
  | .directory entries => documentsIn (dir ++ name ++ "/") entries

/-- The paths of the documents in a directory; `dir` is its path with a slash at the end, or
empty. -/
def documentsIn (dir : String) (entries : List (String × FileTree)) : List String :=
  match entries with
  | [] => []
  | (name, tree) :: entries =>
    (if isHidden name then [] else documentsAt dir name tree) ++ documentsIn dir entries

end

/-- The paths of the documents below a directory, as seen from it and in increasing order. Where
there is no directory, there are none. -/
def documentPaths (w : Workspace) (root : Path) : List String :=
  match w.find root with
  | .ok (.directory entries) => (documentsIn "" entries).mergeSort fun a b => decide (a ≤ b)
  | _ => []

/-- The id of a document by its path. -/
def idOfPath (path : String) : DocumentId :=
  match Text.cutLast '.' path with
  | some (stem, _) => stem
  | none => path

def withLastPart (id : DocumentId) (part : String) : DocumentId :=
  match Text.cutLast '/' id with
  | some (dir, _) => dir ++ "/" ++ part
  | none => part

def idOf (path : String) : Option String → Except FrontMatterFault DocumentId
  | none => .ok (idOfPath path)
  | some id =>
    if '/' ∈ id.toList then .error (.slashInId id)
    else if Text.isBlank id then .error .emptyId
    else .ok (withLastPart (idOfPath path) id)

def documentOf (path text : String) : Except FrontMatterFault Document := do
  let (front, body) := FrontMatter.split text
  let front ←
    match front.map FrontMatter.ofText? with
    | some (some front) => .ok front
    | some none => .error .invalid
    | none => .ok {}
  let title := (front.title.or (Title.heading? body)).getD
    (Title.ofName ((Path.stem? ⟨path⟩).getD ""))
  return { id := ← idOf path front.id, title, source := some ⟨path⟩, links := Markdown.links body }

def readDocument (w : Workspace) (root : Path) (path : String) : Except SourceError Document :=
  let file := root.join ⟨path⟩
  match w.readText file with
  | .error e => .error (.io file e.message)
  | .ok text => (documentOf path text).mapError fun fault => .frontMatter file fault.message

def documents (w : Workspace) (root : Path) : Except SourceError (List Document) :=
  (documentPaths w root).mapM (readDocument w root)

end Discovery

end Signpost
