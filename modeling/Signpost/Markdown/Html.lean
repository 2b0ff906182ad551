import Signpost.Markdown.Line
import Signpost.Text.Cut

/-!
# HTML in Markdown

Tags, comments and the like stand in the text of a block or make up blocks of their own.
-/

namespace Signpost.Markdown.Html

def isLetter (c : Char) : Bool := c.isAlpha

/-- White space and line ends. Where `lines` is false, line ends are refused. -/
def skipSpace? (lines : Bool) (cs : List Char) : Option (List Char) :=
  let rest := cs.dropWhile isSpace
  if lines || (cs.take (cs.length - rest.length)).all isBlank then some rest else none

def attributeName? : List Char → Option (List Char)
  | [] => none
  | c :: cs =>
    if isLetter c || c = '_' || c = ':' then
      some (cs.dropWhile fun d => d.isAlphanum || d = '_' || d = '.' || d = ':' || d = '-')
    else none

def quotedValue? (lines : Bool) (quote : Char) : List Char → Option (List Char)
  | [] => none
  | c :: cs =>
    if c = quote then some cs
    else if isBreak c && !lines then none
    else quotedValue? lines quote cs

def attributeValue? (lines : Bool) (cs : List Char) : Option (List Char) :=
  match cs with
  | [] => none
  | c :: rest =>
    if c = '"' || c = '\'' then quotedValue? lines c rest
    else
      let value := cs.takeWhile fun d =>
        !(['\'', '"', ' ', '=', '>', '<', '`', '\n', '\r'].contains d)
      if value.isEmpty then none else some (cs.drop value.length)

def attribute? (lines : Bool) (cs : List Char) : Option (List Char) := do
  let after ← attributeName? cs
  match ← skipSpace? lines after with
  | '=' :: rest => attributeValue? lines (← skipSpace? lines rest)
  | _ => return after

def attributes? (fuel : Nat) (lines : Bool) (cs : List Char) : Option (List Char) :=
  match fuel with
  | 0 => none
  | fuel + 1 => do
    let rest ← skipSpace? lines cs
    match rest with
    | '/' :: _ | '>' :: _ => return rest
    | [] => none
    | _ =>
      if rest.length = cs.length then none else attributes? fuel lines (← attribute? lines rest)

def tag? (lines : Bool) (cs : List Char) : Option (List Char) := do
  let (closing, cs) :=
    match cs with
    | '/' :: rest => (true, rest)
    | _ => (false, cs)
  match cs with
  | c :: _ =>
    if !isLetter c then none
    else
      let rest := cs.dropWhile fun d => d.isAlphanum || d = '-'
      let rest ← if closing then some rest else attributes? (rest.length + 1) lines rest
      let rest := rest.dropWhile isBlank
      match closing, rest with
      | false, '/' :: '>' :: rest => return rest
      | _, '>' :: rest => return rest
      | _, _ => none
  | [] => none

def afterMark? (mark : List Char) : List Char → Option (List Char)
  | [] => none
  | c :: cs =>
    match Text.dropLead mark (c :: cs) with
    | some rest => some rest
    | none => afterMark? mark cs

/-- What follows a comment, a declaration or the like, from the character after the exclamation
mark. -/
def declaration? (cs : List Char) : Option (List Char) :=
  match cs with
  | '-' :: '-' :: rest => afterMark? ['-', '-', '>'] ('-' :: '-' :: rest)
  | '[' :: 'C' :: 'D' :: 'A' :: 'T' :: 'A' :: '[' :: rest =>
    match (rest.dropWhile (· ≠ ']')).dropWhile (· = ']') with
    | '>' :: rest => some rest
    | _ => none
  | c :: rest => if isLetter c then afterMark? ['>'] rest else none
  | [] => none

def inline? (cs : List Char) : Option (List Char) :=
  match cs with
  | '!' :: rest => declaration? rest
  | '?' :: rest => afterMark? ['?', '>'] rest
  | _ => tag? true cs

def rawTags : List String := ["pre", "style", "script", "textarea"]

def blockTags : List String := [
  "address", "article", "aside", "base", "basefont", "blockquote", "body", "caption", "center",
  "col", "colgroup", "dd", "details", "dialog", "dir", "div", "dl", "dt", "fieldset", "figcaption",
  "figure", "footer", "form", "frame", "frameset", "h1", "h2", "h3", "h4", "h5", "h6", "head",
  "header", "hr", "html", "iframe", "legend", "li", "link", "main", "menu", "menuitem", "nav",
  "noframes", "ol", "optgroup", "option", "p", "param", "search", "section", "summary", "table",
  "tbody", "td", "tfoot", "th", "thead", "title", "tr", "track", "ul"]

def nameOf (cs : List Char) : String :=
  String.ofList ((cs.takeWhile Char.isAlphanum).map Char.toLower)

/-- The mark that ends a block which begins with a special tag, a comment, a declaration or the
like; the text begins after the opening bracket. -/
def endMark? (cs : List Char) : Option (List Char) :=
  let name := nameOf cs
  let ended :=
    match cs.drop name.length with
    | [] => true
    | c :: _ => isSpace c || c = '>'
  if rawTags.contains name && ended then some (("</" ++ name ++ ">").toList)
  else
    match cs with
    | '!' :: '-' :: '-' :: _ => some ['-', '-', '>']
    | '?' :: _ => some ['?', '>']
    | '!' :: '[' :: 'C' :: 'D' :: 'A' :: 'T' :: 'A' :: '[' :: _ => some [']', ']', '>']
    | '!' :: c :: _ => if isLetter c then some ['>'] else none
    | _ => none

/-- Whether a tag begins a block up to an empty line; the text begins after the opening bracket. -/
def startsBlock (cs : List Char) : Bool :=
  let cs :=
    match cs with
    | '/' :: rest => rest
    | _ => cs
  let name := nameOf cs
  blockTags.contains name &&
    match cs.drop name.length with
    | [] => true
    | '/' :: '>' :: _ => true
    | c :: _ => [' ', '\t', '\r', '\n', '>'].contains c

def standsAlone (cs : List Char) : Bool :=
  (tag? false cs).any fun rest => (blankLine? rest).isSome

def interrupts : List Char → Bool
  | '<' :: rest => (endMark? rest).isSome || startsBlock rest
  | _ => false

end Signpost.Markdown.Html
