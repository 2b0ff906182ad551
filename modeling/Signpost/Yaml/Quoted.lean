import Signpost.Yaml.Cursor
import Signpost.Text.Digits

/-!
# Quoted and plain scalars

A scalar may go over several lines. One line end between two lines counts as a space, and of several
the first does not count.
-/

namespace Signpost.Yaml

structure Gap where
  blanks : List Char := []
  first : List Char := []
  further : List Char := []
  broken : Bool := false

def Gap.text (g : Gap) : List Char :=
  if !g.broken then g.blanks
  else if g.first = ['\n'] then (if g.further.isEmpty then [' '] else g.further)
  else g.first ++ g.further

/-- Passes the blanks and line ends at a position. A tab to the left of column `margin` is refused
in a plain scalar, where `margin` is given. -/
def readGap (fuel : Nat) (margin : Option Nat) (g : Gap) (c : Cursor) : Option (Gap × Cursor) :=
  match fuel with
  | 0 => none
  | fuel + 1 =>
    match c.rest with
    | x :: _ =>
      if isBlank x then
        if g.broken && x = '\t' && margin.any (c.column < ·) then none
        else
          let g := if g.broken then g else { g with blanks := g.blanks ++ [x] }
          readGap fuel margin g (c.skip 1)
      else if isBreak x then
        let (mark, next) := c.nextLine
        if g.broken then readGap fuel margin { g with further := g.further ++ mark } next
        else readGap fuel margin { g with first := mark, broken := true } next
      else some (g, c)
    | [] => some (g, c)

/-- What stands after a backslash in double quotes: a character, and how many characters further on
the text goes on. -/
def doubleEscape (c : Cursor) : Option (Char × Nat) := do
  let letter ← c.at? 1
  let coded (digits : Nat) : Option (Char × Nat) := do
    let run := (c.rest.drop 2).take digits
    if run.length < digits then none
    else
      let n ← Text.digits? 16 run
      if (0xD800 ≤ n && n ≤ 0xDFFF) || 0x10FFFF < n then none
      else return (Char.ofNat n, 2 + digits)
  match letter with
  | '0' => return ('\x00', 2)
  | 'a' => return ('\x07', 2)
  | 'b' => return ('\x08', 2)
  | 't' => return ('\t', 2)
  | '\t' => return ('\t', 2)
  | 'n' => return ('\n', 2)
  | 'v' => return ('\x0b', 2)
  | 'f' => return ('\x0c', 2)
  | 'r' => return ('\r', 2)
  | 'e' => return ('\x1b', 2)
  | ' ' => return (' ', 2)
  | '"' => return ('"', 2)
  | '/' => return ('/', 2)
  | '\\' => return ('\\', 2)
  | 'N' => return ('\u0085', 2)
  | '_' => return ('\u00a0', 2)
  | 'L' => return ('\u2028', 2)
  | 'P' => return ('\u2029', 2)
  | 'x' => coded 2
  | 'u' => coded 4
  | 'U' => coded 8
  | _ => none

/-- Reads a quoted scalar from the character after its opening quote; `before` is what was read,
last character first. -/
def readQuoted (fuel : Nat) (quote : Char) (before : List Char) (c : Cursor) :
    Option (List Char × Cursor) :=
  match fuel with
  | 0 => none
  | fuel + 1 =>
    if c.atDocumentMark then none
    else
      match c.rest with
      | [] => none
      | x :: rest =>
        if x = quote then
          if quote = '\'' && rest.head? = some '\'' then
            readQuoted fuel quote ('\'' :: before) (c.skip 2)
          else some (before.reverse, c.skip 1)
        else if isBlank x || isBreak x then do
          let (gap, next) ← readGap (c.rest.length + 1) none {} c
          readQuoted fuel quote (gap.text.reverse ++ before) next
        else if quote = '"' && x = '\\' then
          if c.breaksAt 1 && !rest.isEmpty then do
            let (gap, next) ←
              readGap (c.rest.length + 1) none { broken := true } (c.skip 1).nextLine.2
            readQuoted fuel quote (gap.text.reverse ++ before) next
          else do
            let (y, n) ← doubleEscape c
            readQuoted fuel quote (y :: before) (c.skip n)
        else readQuoted fuel quote (x :: before) (c.skip 1)

def endsPlain (inFlow : Bool) (c : Cursor) : Bool :=
  match c.rest with
  | [] => true
  | x :: _ =>
    (x = ':' && c.gapAt 1) ||
      (inFlow && (x = ',' || x = '[' || x = ']' || x = '\x7b' || x = '\x7d'))

def badColon (inFlow : Bool) (c : Cursor) : Bool :=
  inFlow && c.sees ':' && ((c.at? 1).any fun x => x = ',' || x = '?' || x = '[' || x = ']' ||
    x = '\x7b' || x = '\x7d')

/-- One word of a plain scalar, last character first before `before`. -/
def readPlainWord (fuel : Nat) (inFlow : Bool) (before : List Char) (c : Cursor) :
    Option (List Char × Cursor) :=
  match fuel with
  | 0 => none
  | fuel + 1 =>
    if c.gapAt 0 then some (before, c)
    else if badColon inFlow c then none
    else if endsPlain inFlow c then some (before, c)
    else
      match c.rest with
      | x :: _ => readPlainWord fuel inFlow (x :: before) (c.skip 1)
      | [] => some (before, c)

structure PlainResult where
  text : List Char
  after : Cursor
  broken : Bool

/-- Reads a plain scalar. `margin` is the least column of a further line; `before` is what was read,
last character first, and `gap` the gap after it. -/
def readPlain (fuel : Nat) (inFlow : Bool) (margin : Nat) (before : List Char) (gap : Gap)
    (c : Cursor) : Option PlainResult :=
  match fuel with
  | 0 => none
  | fuel + 1 =>
    let done := some ⟨before.reverse, c, gap.broken⟩
    if c.atDocumentMark || c.sees '#' then done
    else do
      let (word, next) ← readPlainWord (c.rest.length + 1) inFlow [] c
      let advanced := !word.isEmpty
      let before := if advanced then word ++ gap.text.reverse ++ before else before
      let gap : Gap := if advanced then {} else gap
      if next.atEnd || !next.gapAt 0 then return ⟨before.reverse, next, gap.broken⟩
      else
        let (gap, next) ← readGap (next.rest.length + 1) (some margin) gap next
        if !inFlow && next.column < margin then return ⟨before.reverse, next, gap.broken⟩
        else readPlain fuel inFlow margin before gap next

end Signpost.Yaml
