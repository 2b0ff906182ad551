import Signpost.Document
import Signpost.Index

/-!
# The registry of known documents

Documents are known by their ids, and by their files. A second document with the id of a registered
one is refused; of several documents with the same file, the last one registered is found by it.
-/

namespace Signpost

inductive SourceError where
  | io (path : Path) (cause : String)
  | frontMatter (path : Path) (fault : String)
deriving DecidableEq, Repr

def SourceError.message : SourceError → String
  | .io path cause => "I/O error reading " ++ path.text ++ ": " ++ cause
  | .frontMatter path fault => "Invalid front matter in " ++ path.text ++ ": " ++ fault

inductive RegistryError where
  | duplicateId (id : DocumentId)
  | source (cause : SourceError)
deriving DecidableEq, Repr

def RegistryError.message : RegistryError → String
  | .duplicateId id => "Duplicate document id: " ++ id
  | .source cause => cause.message

structure Registry where
  documents : Index Document := Index.empty
  /-- The files of documents with their ids, the last one registered first. -/
  sources : List (Path × DocumentId) := []
deriving Inhabited

namespace Registry

def empty : Registry := {}

def contains (r : Registry) (id : DocumentId) : Bool :=
  r.documents.contains id

def get? (r : Registry) (id : DocumentId) : Option Document :=
  r.documents.get? id

/-- The id of the document that was last registered with this file. -/
def findBySource? (r : Registry) (path : Path) : Option DocumentId :=
  (r.sources.find? fun entry => entry.1.same path).map (·.2)

/-- Adds a document; one whose id is registered is refused. -/
def register (r : Registry) (d : Document) : Except RegistryError Registry :=
  if r.contains d.id then .error (.duplicateId d.id)
  else
    .ok
      { documents := r.documents.insert d.id d
        sources :=
          match d.source with
          | some path => (path, d.id) :: r.sources
          | none => r.sources }

def registerAll (r : Registry) : List Document → Except RegistryError Registry
  | [] => .ok r
  | d :: ds =>
    match r.register d with
    | .ok next => next.registerAll ds
    | .error e => .error e

def ofDocuments (ds : List Document) : Except RegistryError Registry :=
  empty.registerAll ds

/-- The registry of all that a supplier of documents reports. -/
def ofSource (supply : Except SourceError (List Document)) : Except RegistryError Registry :=
  match supply with
  | .ok ds => ofDocuments ds
  | .error e => .error (.source e)

def ids (r : Registry) : List DocumentId :=
  r.documents.keys

def all (r : Registry) : List Document :=
  r.documents.values

def size (r : Registry) : Nat :=
  r.documents.size

end Registry

end Signpost
