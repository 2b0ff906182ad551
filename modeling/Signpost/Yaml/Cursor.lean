/-!
# Positions in a YAML text

A position knows what is left of the text, how much came before it, and its line and column, since
indentation and line ends carry meaning.
-/

namespace Signpost.Yaml

def isBreak (c : Char) : Bool :=
  c = '\n' || c = '\r' || c = '\u0085' || c = '\u2028' || c = '\u2029'

def isBlank (c : Char) : Bool :=
  c = ' ' || c = '\t'

def isWord (c : Char) : Bool :=
  c.isAlphanum || c = '-' || c = '_'

def isAllowed (c : Char) : Bool :=
  let n := c.toNat
  n == 9 || n == 10 || n == 13 || (0x20 ≤ n && n ≤ 0x7E) || n == 0x85 ||
    (0xA0 ≤ n && n ≤ 0xD7FF) || (0xE000 ≤ n && n ≤ 0xFFFD) || 0x10000 ≤ n

structure Cursor where
  rest : List Char
  index : Nat := 0
  line : Nat := 0
  column : Nat := 0

namespace Cursor

/-- The position after `n` characters, none of which ends a line. -/
def skip (n : Nat) (c : Cursor) : Cursor :=
  { c with rest := c.rest.drop n, index := c.index + n, column := c.column + n }

/-- The longest run of characters with a property, none of which ends a line, and the position
after it. -/
def span (p : Char → Bool) (c : Cursor) : List Char × Cursor :=
  let run := c.rest.takeWhile p
  (run, c.skip run.length)

def at? (n : Nat) (c : Cursor) : Option Char :=
  (c.rest.drop n).head?

def sees (x : Char) (c : Cursor) : Bool :=
  c.rest.head? == some x

/-- Whether the text ends here, or the character `n` characters further on ends a line. -/
def breaksAt (n : Nat) (c : Cursor) : Bool :=
  match c.at? n with
  | none => true
  | some x => isBreak x

/-- Whether a blank, the end of a line or the end of the text stands `n` characters further on. -/
def gapAt (n : Nat) (c : Cursor) : Bool :=
  match c.at? n with
  | none => true
  | some x => isBlank x || isBreak x

def atEnd (c : Cursor) : Bool :=
  c.rest.isEmpty

def atBreak (c : Cursor) : Bool :=
  match c.rest with
  | x :: _ => isBreak x
  | [] => false

/-- The position at the beginning of the next line, and the line end that was passed. The end of a
line counts as a line feed, unless it is one of the two separators of Unicode. -/
def nextLine (c : Cursor) : List Char × Cursor :=
  match c.rest with
  | '\r' :: '\n' :: rest => (['\n'], ⟨rest, c.index + 2, c.line + 1, 0⟩)
  | x :: rest =>
    let mark := if x = '\u2028' || x = '\u2029' then x else '\n'
    if isBreak x then ([mark], ⟨rest, c.index + 1, c.line + 1, 0⟩) else ([], c)
  | [] => ([], c)

def marksDocument (mark : Char) (c : Cursor) : Bool :=
  c.column == 0 && c.rest.take 3 == [mark, mark, mark] && c.gapAt 3

def atDocumentMark (c : Cursor) : Bool :=
  c.marksDocument '-' || c.marksDocument '.'

def skipComment (c : Cursor) : Cursor :=
  if c.sees '#' then (c.span fun x => !isBreak x).2 else c

end Cursor

end Signpost.Yaml
