/-!
# Lines of Markdown

Columns count in spaces; a tab goes to the next multiple of four, and what is left of it counts as
spaces that are still to come. A line ends at a line feed, a carriage return, or both together.
-/

namespace Signpost.Markdown

def isSpace (c : Char) : Bool :=
  c = ' ' || ('\t' ≤ c && c ≤ '\r')

def isBlank (c : Char) : Bool :=
  isSpace c && c ≠ '\n' && c ≠ '\r'

def isBreak (c : Char) : Bool :=
  c = '\n' || c = '\r'

def isPunct (c : Char) : Bool :=
  ('!' ≤ c && c ≤ '/') || (':' ≤ c && c ≤ '@') || ('[' ≤ c && c ≤ '`') || ('\x7b' ≤ c && c ≤ '~')

/-- What follows the end of a line; the end of the text counts as one. -/
def lineEnd? : List Char → Option (List Char)
  | [] => some []
  | '\n' :: rest => some rest
  | '\r' :: '\n' :: rest => some rest
  | '\r' :: rest => some rest
  | _ => none

def blankLine? (cs : List Char) : Option (List Char) :=
  lineEnd? (cs.dropWhile isBlank)

def afterLineFeed (cs : List Char) : List Char :=
  (cs.dropWhile (· ≠ '\n')).drop 1

def runLength (c : Char) (cs : List Char) : Nat :=
  (cs.takeWhile (· = c)).length

structure Spot where
  rest : List Char
  column : Nat := 0
  pending : Nat := 0

/-- Passes spaces and tabs until `missing` columns are passed; gives how many could not be. -/
def takeColumns (missing column : Nat) : List Char → Nat × Spot
  | [] => (missing, { rest := [], column })
  | c :: cs =>
    if missing = 0 then (0, { rest := c :: cs, column })
    else if c = ' ' then takeColumns (missing - 1) (column + 1) cs
    else if c = '\t' then
      let width := 4 - column % 4
      if width ≤ missing then takeColumns (missing - width) (column + width) cs
      else (0, { rest := cs, column := column + width, pending := width - missing })
    else (missing, { rest := c :: cs, column })

namespace Spot

/-- Passes up to `n` columns of spaces; gives how many are missing. -/
def take (n : Nat) (s : Spot) : Nat × Spot :=
  if n ≤ s.pending then (0, { s with pending := s.pending - n })
  else takeColumns (n - s.pending) s.column s.rest

def skipSpaces (s : Spot) : Spot :=
  { rest := s.rest.dropWhile fun c => c = ' ' || c = '\t', column := s.column }

def atEnd (s : Spot) : Bool :=
  match s.rest with
  | [] => true
  | c :: _ => isBreak c

def skip (n : Nat) (s : Spot) : Spot :=
  { rest := s.rest.drop n, column := s.column + n }

end Spot

end Signpost.Markdown
