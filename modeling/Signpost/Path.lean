import Signpost.Text.Cut

/-!
# Paths

A path is written with slashes. It is kept as it was written, but two paths are the same when they
have the same components: empty components and those that are a single dot carry no meaning, except
for a dot at the very beginning of a relative path.
-/

namespace Signpost

structure Path where
  text : String
deriving DecidableEq, Repr, Inhabited

namespace Path

inductive Component where
  | root
  | here
  | up
  | name (name : String)
deriving DecidableEq, Repr

def isIdle (piece : String) : Bool :=
  piece == "" || piece == "."

/-- The beginning of a path (a slash, a dot, or nothing) and the pieces between slashes after it. -/
def pieces (p : Path) : String × List String :=
  match Text.cut '/' p.text with
  | "" :: second :: rest => ("/", second :: rest)
  | "." :: rest => (".", rest)
  | all => ("", all)

def isAbsolute (p : Path) : Bool :=
  p.text.toList.head? == some '/'

def componentOf (piece : String) : Component :=
  if piece = ".." then .up else .name piece

def components (p : Path) : List Component :=
  let (start, body) := p.pieces
  let rest := (body.filter fun piece => !isIdle piece).map componentOf
  if start = "/" then .root :: rest else if start = "." then .here :: rest else rest

def same (p q : Path) : Bool :=
  p.components == q.components

def dropIdleEnd (body : List String) : List String :=
  (body.reverse.dropWhile isIdle).reverse

def ofPieces (start : String) (body : List String) : Path :=
  let rest := Text.join "/" body
  if start = "." && !body.isEmpty then ⟨"./" ++ rest⟩ else ⟨start ++ rest⟩

/-- The path without its last component; the root and the empty path have none to drop. -/
def parent? (p : Path) : Option Path :=
  let (start, body) := p.pieces
  match dropIdleEnd body with
  | [] => if start = "." then some ⟨""⟩ else none
  | kept => some (ofPieces start (dropIdleEnd kept.dropLast))

def fileName? (p : Path) : Option String :=
  match (dropIdleEnd p.pieces.2).getLast? with
  | some piece => if piece = ".." then none else some piece
  | none => none

/-- A file name cut at its last dot; a dot at the beginning does not count. -/
def splitName (name : String) : String × Option String :=
  match Text.cutLast '.' name with
  | some (stem, ext) => if stem = "" then (name, none) else (stem, some ext)
  | none => (name, none)

def extension? (p : Path) : Option String :=
  p.fileName?.bind fun name => (splitName name).2

def stem? (p : Path) : Option String :=
  p.fileName?.map fun name => (splitName name).1

/-- The second path as seen from the first; an absolute one stands for itself. -/
def join (p q : Path) : Path :=
  if q.isAbsolute then q
  else if p.text = "" || Text.endsWith p.text "/" then ⟨p.text ++ q.text⟩
  else ⟨p.text ++ "/" ++ q.text⟩

end Path

end Signpost
