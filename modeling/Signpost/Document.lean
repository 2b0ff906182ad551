import Signpost.Path

/-!
# Documents

A document has an id by which sidebars refer to it, a title, the file it was read from, if any, and
the links written in its body.
-/

namespace Signpost

/-- The key of a document: by convention its path below the docs directory without the extension. -/
abbrev DocumentId := String

/-- The directory part of an id; empty for a document at the top. -/
def DocumentId.dir (id : DocumentId) : String :=
  match Text.cutLast '/' id with
  | some (dir, _) => dir
  | none => ""

structure Document where
  id : DocumentId
  title : String
  source : Option Path := none
  links : List String := []
deriving DecidableEq, Repr

namespace Document

/-- The directory that links of the document are relative to: that of its file, or of its id if
there is no file. -/
def linkBase (d : Document) : String :=
  match d.source.bind Path.parent? with
  | some dir => String.ofList (dir.text.toList.map fun c => if c = '\\' then '/' else c)
  | none => DocumentId.dir d.id

end Document

end Signpost
