import Signpost.Registry
import Signpost.Reference
import Signpost.Text.Percent

/-!
# Links between documents

Only relative links to markdown files are checked. A link is written percent-encoded and may carry a
fragment or a query; what remains is taken relative to the directory of the document that holds it.
Addresses with a scheme, absolute paths and links to other files are left alone.
-/

namespace Signpost.Link

def extensions : List String := [".md", ".mdx"]

def beforeSuffix (link : String) : String :=
  String.ofList (link.toList.takeWhile fun c => !(c = '#' || c = '?'))

def isSchemeChar (c : Char) : Bool :=
  c.isAlphanum || c = '+' || c = '-' || c = '.'

def hasScheme (link : String) : Bool :=
  let scheme := link.toList.takeWhile (· ≠ ':')
  scheme.length < link.toList.length && !scheme.isEmpty && scheme.all isSchemeChar

def isMarkdown (path : String) : Bool :=
  extensions.any fun ext => Text.endsWith path ext

/-- One step of a path: down into a segment, or up. Going up from where nothing is left to go up
from is kept, so that the path stays outside. -/
def walkStep (segments : List String) (segment : String) : List String :=
  if segment = "" || segment = "." then segments
  else if segment = ".." then
    match segments.getLast? with
    | none => [".."]
    | some last => if last = ".." then segments ++ [".."] else segments.dropLast
  else segments ++ [segment]

/-- The segments of a directory; empty ones do not count. -/
def baseSegments (base : String) : List String :=
  (Text.cut '/' base).filter (· ≠ "")

/-- The path that a link names, seen from the directory `base`, without dot segments. -/
def normalize (base link : String) : String :=
  Text.join "/" ((Text.cut '/' link).foldl walkStep (baseSegments base))

def target? (d : Document) (link : String) : Option String :=
  let path := Text.percentDecode (beforeSuffix link)
  if path = "" || Text.beginsWith path "/" || hasScheme path then none
  else if isMarkdown path then some (normalize d.linkBase path)
  else none

/-- The id that a file has by convention: its path without the extension. -/
def conventionalId (target : String) : DocumentId :=
  (extensions.findSome? fun ext => Text.dropTail ext target).getD target

/-- The document that a path names: by its file, or else by its conventional id. -/
def resolve? (r : Registry) (target : String) : Option DocumentId :=
  match r.findBySource? ⟨target⟩ with
  | some id => some id
  | none => (r.get? (conventionalId target)).map (·.id)

def checkLink (r : Registry) (d : Document) (link : String) : Option Unresolved :=
  match target? d link with
  | none => none
  | some target =>
    if (resolve? r target).isSome then none
    else some ⟨conventionalId target, .link d.id⟩

/-- The links that lead to no document, documents in the order of their ids and links as written. -/
def check (r : Registry) : List Unresolved :=
  r.all.flatMap fun d => d.links.filterMap (checkLink r d)

end Signpost.Link
