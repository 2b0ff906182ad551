import Signpost.Markdown.Container

/-!
# Tables

A table is a row of cells, a row of dashes with as many columns, and further rows. Cells are
separated by bars; a bar after a backslash belongs to its cell.
-/

namespace Signpost.Markdown

structure DashRow where
  columns : Nat := 0
  begun : Bool := false
  dashed : Bool := false
  anyDash : Bool := false
  anyBar : Bool := false

def DashRow.step (row : DashRow) (c : Char) : Option DashRow :=
  if c = ' ' then some row
  else if c = ':' then some { row with begun := true }
  else if c = '-' then some { row with begun := true, dashed := true, anyDash := true }
  else if c = '|' then
    if row.dashed then
      some { row with columns := row.columns + 1, begun := false, dashed := false, anyBar := true }
    else none
  else none

def dashRow? (s : Spot) : Option (Nat × List Char) := do
  let (missing, t) := s.take 4
  if missing = 0 || t.rest.isEmpty then none
  else
    let line := t.rest.takeWhile (!isBreak ·)
    let (start, body) : DashRow × List Char :=
      match line with
      | '|' :: body => ({ anyBar := true }, body)
      | _ => ({}, line)
    let row ← body.foldlM DashRow.step start
    let rest ← lineEnd? (t.rest.drop line.length)
    if row.anyBar && row.anyDash then
      return (row.columns + (if row.begun then 1 else 0), rest)
    else none

def dashRowBelow? (containers : List Container) (next : List Char) : Option (Nat × List Char) :=
  match enterAll { rest := next } containers with
  | ([], s) => dashRow? s
  | _ => none

def barsFrom : List Char → List (List Char)
  | [] => []
  | '\\' :: c :: cs => if isPunct c then barsFrom cs else barsFrom (c :: cs)
  | c :: cs => if c = '|' then cs :: barsFrom cs else barsFrom cs

def looseBarsFrom (escaped : Bool) : List Char → List (List Char)
  | [] => []
  | c :: cs =>
    if c = '\\' then looseBarsFrom true cs
    else if c = '|' && !escaped then cs :: looseBarsFrom false cs
    else looseBarsFrom false cs

/-- How many columns a line of cells has, given its bars; bars at its ends do not count. -/
def columnsOf (line : List Char) (bars : List (List Char)) : Nat :=
  let leading := (line.dropWhile isBlank).head? == some '|'
  let trailing := bars.getLast?.any fun rest => rest.all isBlank
  bars.length - (if leading then 1 else 0) + (if trailing then 0 else 1)

/-- The text of a cell up to the bar or the line end after it; `before` is its last character. -/
def cellText (before : Char) : List Char → List Char
  | [] => []
  | c :: cs => if isBreak c || (c = '|' && before ≠ '\\') then [] else c :: cellText c cs

def readCells (fuel : Nat) (cs : List Char) : List (List Char) × List Char :=
  match fuel with
  | 0 => ([], cs)
  | fuel + 1 =>
    let cs :=
      match cs with
      | '|' :: rest => rest
      | _ => cs
    let start := cs.dropWhile isBlank
    match lineEnd? start with
    | some rest => ([], rest)
    | none =>
      let cell := cellText ' ' start
      let (cells, rest) := readCells fuel (start.drop cell.length)
      (cell :: cells, rest)

end Signpost.Markdown
