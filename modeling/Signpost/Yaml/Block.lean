import Signpost.Yaml.Cursor

/-!
# Block scalars

A block scalar is a run of indented lines after a bar, which keeps line ends, or after an angle
bracket, which folds them. A sign after either says what becomes of the line ends at the end of the
scalar, and a digit says how far the lines are indented.
-/

namespace Signpost.Yaml

inductive Chomping where
  | strip
  | clip
  | keep
deriving DecidableEq

structure BlockHeader where
  chomping : Chomping := .clip
  /-- How much deeper than their surroundings the lines are indented, if that is given. -/
  indentation : Option Nat := none

def chompingAt (c : Cursor) : Option Chomping :=
  if c.sees '+' then some .keep else if c.sees '-' then some .strip else none

def readBlockHeader (c : Cursor) : Option (BlockHeader × Cursor) := do
  let digitAt (c : Cursor) : Option (Option Nat × Cursor) :=
    match c.rest with
    | x :: _ =>
      if x = '0' then none
      else if x.isDigit then some (some (x.toNat - '0'.toNat), c.skip 1)
      else some (none, c)
    | [] => some (none, c)
  match chompingAt c with
  | some chomping =>
    let (indentation, c) ← digitAt (c.skip 1)
    return ({ chomping, indentation }, c)
  | none =>
    let (indentation, after) ← digitAt c
    match indentation, chompingAt after with
    | some _, some chomping => return ({ chomping, indentation }, after.skip 1)
    | _, _ => return ({ indentation }, after)

/-- Passes empty lines. `indent` is the column of the lines, if it is known; `deepest` is the
greatest column that was seen, and `before` the line ends, last first. -/
def skipEmptyLines (fuel : Nat) (indent : Option Nat) (deepest : Nat) (before : List Char)
    (c : Cursor) : Option (Nat × List Char × Cursor) :=
  match fuel with
  | 0 => none
  | fuel + 1 =>
    let spaces := (c.rest.takeWhile (· = ' ')).length
    let c := c.skip <|
      match indent with
      | some column => min spaces (column - c.column)
      | none => spaces
    let deepest := max deepest c.column
    if c.sees '\t' && indent.all (c.column < ·) then none
    else if c.atBreak then
      let (mark, next) := c.nextLine
      skipEmptyLines fuel indent deepest (mark.reverse ++ before) next
    else some (deepest, before.reverse, c)

def blankAt (c : Cursor) : Bool :=
  c.rest.head?.any isBlank

/-- The lines of a block scalar at column `indent`. `before` is what was read, last character
first; `mark` is the line end after it and `further` are the line ends after that one; `spaced`
tells whether the line before begins with a blank. -/
def readBlockLines (fuel : Nat) (folded : Bool) (indent : Nat) (before mark further : List Char)
    (spaced : Bool) (c : Cursor) : Option (List Char × List Char × List Char × Cursor) :=
  match fuel with
  | 0 => none
  | fuel + 1 =>
    if c.column ≠ indent || c.atEnd then some (before, mark, further, c)
    else do
      let folds := folded && mark = ['\n'] && !spaced && !blankAt c
      let joint := (if !folds then mark else if further.isEmpty then [' '] else []) ++ further
      let (line, after) := c.span fun x => !isBreak x
      let (mark, next) := after.nextLine
      let (_, further, next) ← skipEmptyLines (next.rest.length + 1) (some indent) 0 [] next
      readBlockLines fuel folded indent (line.reverse ++ joint.reverse ++ before) mark further
        (blankAt c) next

/-- Reads a block scalar from the character after the bar or the bracket. `least` is the least
column of its lines. -/
def readBlock (folded : Bool) (least : Nat) (c : Cursor) : Option (List Char × Cursor) := do
  let (header, c) ← readBlockHeader c
  let c := (c.span isBlank).2.skipComment
  if !c.breaksAt 0 then none
  else
    let c := c.nextLine.2
    let given := header.indentation.map fun n => (least - 1) + n
    let (deepest, further, c) ← skipEmptyLines (c.rest.length + 1) given 0 [] c
    let indent := given.getD (max deepest (max least 1))
    let (before, mark, further, c) ←
      readBlockLines (c.rest.length + 1) folded indent [] [] further false c
    let ending :=
      match header.chomping with
      | .strip => []
      | .clip => mark
      | .keep => mark ++ further
    return (before.reverse ++ ending, c)

end Signpost.Yaml
