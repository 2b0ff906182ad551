import Signpost.Markdown.Line

/-!
# Containers

Quotes and list items hold other blocks. A line belongs to a container if it begins with the quote's
mark, or with as many spaces as the item is indented.
-/

namespace Signpost.Markdown

inductive Container where
  | quote
  | item (indent : Nat)
deriving DecidableEq, Repr

def Spot.quoteMark? (s : Spot) : Option Spot :=
  match s.rest with
  | '>' :: _ => some ((s.skip 1).take 1).2
  | _ => none

/-- The place after what a line of a container begins with, if it is one. Empty lines belong to any
list item. -/
def Container.enter? (s : Spot) : Container → Option Spot
  | .quote => (s.take 3).2.quoteMark?
  | .item indent =>
    let (missing, inner) := s.take indent
    if missing = 0 || inner.atEnd then some inner else none

/-- Enters containers, outermost first, as far as the line belongs to them; gives those that it does
not belong to. -/
def enterAll (s : Spot) : List Container → List Container × Spot
  | [] => ([], s)
  | c :: cs =>
    match c.enter? s with
    | some inner => enterAll inner cs
    | none => (c :: cs, s)

/-- What follows a line of three or more stars, dashes or underscores with nothing but spaces
between them. -/
def thematicBreak? (cs : List Char) : Option (List Char) :=
  match cs with
  | c :: _ =>
    if c = '*' || c = '-' || c = '_' then
      let line := cs.takeWhile fun d => d = c || d = ' ' || d = '\t'
      if line.count c < 3 then none else lineEnd? (cs.drop line.length)
    else none
  | [] => none

def listMark? (cs : List Char) : Option (Nat × Option (List Char)) :=
  match cs with
  | [] => none
  | c :: _ =>
    if c = '-' || c = '+' || c = '*' then some (1, none)
    else
      let digits := (cs.takeWhile Char.isDigit).take 9
      match cs.drop digits.length with
      | d :: _ =>
        if !digits.isEmpty && (d = '.' || d = ')') then some (digits.length + 1, some digits)
        else none
      | [] => none

/-- The place after the mark of a list item and the spaces after it, and how far the content is
indented from where the indentation `outer` begins. Five or more spaces count as one. -/
def Spot.itemMark? (s : Spot) (outer : Nat) : Option (Nat × Spot) := do
  let (width, number) ← listMark? s.rest
  if number.isNone && (thematicBreak? s.rest).isSome then none
  else
    let (missing, after) := (s.skip width).take 1
    if missing ≠ 0 && !after.atEnd then none
    else
      let indent := outer + width + 1
      if (blankLine? after.rest).isSome then return (indent, after)
      else
        let (missing, content) := after.take 4
        if missing = 0 then return (indent, after) else return (indent + (4 - missing), content)

def alertKinds : List (List Char) :=
  ["note", "tip", "important", "warning", "caution"].map String.toList

def alertLine? (cs : List Char) : Option (List Char) :=
  match cs with
  | '[' :: '!' :: rest =>
    let kind := rest.takeWhile (· ≠ ']')
    if alertKinds.contains (kind.map Char.toLower) then
      match rest.drop kind.length with
      | ']' :: rest => blankLine? rest
      | _ => none
    else none
  | _ => none

end Signpost.Markdown
