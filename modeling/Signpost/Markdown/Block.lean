import Signpost.Markdown.Definition
import Signpost.Markdown.Html
import Signpost.Markdown.Table

/-!
# Blocks

A document is cut into blocks line by line. What remains of it are the texts that links can stand
in, and the definitions of labels. Code and blocks of HTML hold neither.
-/

namespace Signpost.Markdown

structure Leaf where
  text : List Char
  inTable : Bool := false
deriving DecidableEq, Repr

def startsHeading (cs : List Char) : Bool :=
  let level := runLength '#' cs
  1 ≤ level && level ≤ 6 &&
    match cs.drop level with
    | [] => true
    | c :: _ => isSpace c

def underline? (cs : List Char) : Option (List Char) :=
  match cs with
  | c :: _ => if c = '=' || c = '-' then blankLine? (cs.dropWhile (· = c)) else none
  | [] => none

def fence? (cs : List Char) : Option (Char × Nat) :=
  match cs with
  | c :: _ =>
    let length := runLength c cs
    if c = '~' && 3 ≤ length then some (c, length)
    else if c = '`' && 3 ≤ length then
      let info := (cs.drop length).takeWhile (· ≠ '\n')
      if info.contains '`' then none else some (c, length)
    else none
  | [] => none

/-- Whether a list item that can stand directly after a line of text begins here. In the container
of the text, such an item is not empty and has no number but one. -/
def itemInterrupts (sameContainer inTable : Bool) (cs : List Char) : Bool :=
  match listMark? cs with
  | none => false
  | some (width, number) =>
    let rest := cs.drop width
    let marked := rest.head?.all fun c => c = ' ' || c = '\t' || isBreak c
    let first := number.all fun digits => Text.decimalValue digits == 1
    marked && (!sameContainer || inTable || (first && (blankLine? rest).isNone))

def interruptsPlain (sameContainer inTable : Bool) (cs : List Char) : Bool :=
  (lineEnd? cs).isSome || (thematicBreak? cs).isSome || startsHeading cs || (fence? cs).isSome ||
    cs.head? == some '>' || itemInterrupts sameContainer inTable cs || Html.interrupts cs

def startsBarredTable (containers : List Container) (cs : List Char) : Bool :=
  let line := cs.takeWhile (!isBreak ·)
  let next := cs.drop line.length
  match line, lineEnd? next with
  | '|' :: _, some below =>
    !next.isEmpty && (dashRowBelow? containers below).any fun (columns, _) =>
      columns == columnsOf line (looseBarsFrom false line)
  | _, _ => false

def interrupts (containers : List Container) (sameContainer : Bool) (cs : List Char) : Bool :=
  interruptsPlain sameContainer false cs || startsBarredTable containers cs

inductive NextLine where
  | text (line rest : List Char)
  | underline (rest : List Char)
  | other

def splitLine (cs : List Char) : List Char × List Char :=
  let line := cs.takeWhile (!isBreak ·)
  (line, (lineEnd? (cs.drop line.length)).getD [])

/-- What the line after a line of text is. A line that does not belong to all containers continues
the text as well, unless a block begins on it. `strict` tells that a line of dashes ends the text
in any container. -/
def nextLine (strict : Bool) (containers : List Container) (cs : List Char) : NextLine :=
  let (left, s) := enterAll { rest := cs } containers
  let same := left.isEmpty
  let (missing, t) := s.take 4
  let content := t.skipSpaces
  let continued : NextLine :=
    if content.atEnd then .other
    else
      let (line, rest) := splitLine content.rest
      .text line rest
  if missing = 0 then continued
  else
    match underline? t.rest with
    | some rest =>
      if same || strict then .underline rest
      else if interrupts containers same t.rest then .other
      else continued
    | none => if interrupts containers same t.rest then .other else continued

/-- The lines of a text after the first one, each with what follows it, and what follows a line
under a heading if there is one. -/
def textLines (fuel : Nat) (strict : Bool) (containers : List Container) (cs : List Char) :
    List (List Char × List Char) × Option (List Char) :=
  match fuel with
  | 0 => ([], none)
  | fuel + 1 =>
    match nextLine strict containers cs with
    | .text line rest =>
      let (lines, underlined) := textLines fuel strict containers rest
      ((line, rest) :: lines, underlined)
    | .underline rest => ([], some rest)
    | .other => ([], none)

def joinLines : List (List Char) → List Char
  | [] => []
  | [line] => line
  | line :: lines => line ++ '\n' :: joinLines lines

structure Cutting where
  containers : List Container := []
  /-- Whether the innermost container is a list item that begins with an empty line and has
  nothing in it. -/
  emptyItem : Bool := false
  leaves : List Leaf := []
  definitions : List Definition := []

namespace Cutting

def addText (text : List Char) (x : Cutting) : Cutting :=
  { x with leaves := { text } :: x.leaves }

def begun (x : Cutting) : Cutting :=
  { x with emptyItem := false }

def emptyLine (x : Cutting) : Cutting :=
  if x.emptyItem then { x with containers := x.containers.dropLast, emptyItem := false } else x

def push (container : Container) (x : Cutting) : Cutting :=
  { x with containers := x.containers ++ [container], emptyItem := false }

def skipIndented (fuel : Nat) (containers : List Container) (cs : List Char) : List Char :=
  match fuel with
  | 0 => []
  | fuel + 1 =>
    let next := afterLineFeed cs
    match enterAll { rest := next } containers with
    | ([], s) =>
      let (missing, t) := s.take 4
      if missing = 0 || t.atEnd then
        if t.rest.isEmpty then next else skipIndented fuel containers t.rest
      else next
    | _ => next

def closesFence (mark : Char) (length : Nat) (cs : List Char) : Option (List Char) :=
  if cs.isEmpty then some []
  else
    let run := runLength mark cs
    let rest := (cs.drop run).dropWhile (· = ' ')
    if length ≤ run && (lineEnd? rest).isSome then some rest else none

def skipFenced (fuel : Nat) (containers : List Container) (indent : Nat) (mark : Char)
    (length : Nat) (cs : List Char) : List Char :=
  match fuel with
  | 0 => []
  | fuel + 1 =>
    match enterAll { rest := cs } containers with
    | ([], s) =>
      let (_, t) := s.take indent
      let (missing, u) := t.take (4 - indent)
      let closed := if missing = 0 then none else closesFence mark length u.rest
      match closed with
      | some rest => (blankLine? rest).getD rest
      | none => skipFenced fuel containers indent mark length (afterLineFeed t.rest)
    | _ => cs

def skipMarkedHtml (fuel : Nat) (containers : List Container) (mark : List Char)
    (cs : List Char) : List Char :=
  match fuel with
  | 0 => []
  | fuel + 1 =>
    let next := afterLineFeed cs
    let line := cs.take (cs.length - next.length)
    match enterAll { rest := next } containers with
    | ([], s) =>
      if (Html.afterMark? mark line).isSome || s.rest.isEmpty then next
      else skipMarkedHtml fuel containers mark s.rest
    | _ => next

def skipHtml (fuel : Nat) (containers : List Container) (cs : List Char) : List Char :=
  match fuel with
  | 0 => []
  | fuel + 1 =>
    let next := afterLineFeed cs
    match enterAll { rest := next } containers with
    | ([], s) =>
      if (blankLine? s.rest).isSome then next else skipHtml fuel containers s.rest
    | _ => next

def readRows (fuel columns : Nat) (containers : List Container) (cs : List Char) :
    List (List Char) × List Char :=
  match fuel with
  | 0 => ([], cs)
  | fuel + 1 =>
    match enterAll { rest := cs } containers with
    | ([], s) =>
      let t := s.skipSpaces
      if interruptsPlain true true t.rest then ([], cs)
      else
        let (cells, rest) := readCells (t.rest.length + 1) t.rest
        let (others, rest) := readRows fuel columns containers rest
        (cells.take columns ++ others, rest)
    | _ => ([], cs)

def table? (x : Cutting) (cs : List Char) : Option (Cutting × List Char) := do
  let (line, next) := splitLine cs
  let bars := barsFrom line
  if bars.isEmpty then none
  else
    let (columns, body) ← dashRowBelow? x.containers next
    if columns ≠ columnsOf line bars then none
    else
      let (head, _) := readCells (cs.length + 1) cs
      let (cells, rest) := readRows (body.length + 1) columns x.containers body
      let leaves := (head.take columns ++ cells).map fun text => { text, inTable := true : Leaf }
      return ({ x with leaves := leaves.reverse ++ x.leaves }, rest)

def definition? (x : Cutting) (cs : List Char) : Option (Cutting × List Char) := do
  match cs with
  | '[' :: _ =>
    let first := splitLine cs
    let (others, _) := textLines (cs.length + 1) true x.containers first.2
    let lines := first :: others
    let (found, left) ← readDefinition (joinLines (lines.map (·.1)))
    let unread := if left.isEmpty then 0 else left.count '\n' + 1
    let (_, rest) ← (lines.take (lines.length - unread)).getLast?
    return ({ x with definitions := found :: x.definitions }, rest)
  | _ => none

def paragraph (x : Cutting) (cs : List Char) : Cutting × List Char :=
  let first := splitLine cs
  let (others, underlined) := textLines (cs.length + 1) false x.containers first.2
  let lines := first :: others
  let rest := underlined.getD (lines.getLast?.elim [] (·.2))
  (x.addText (joinLines (lines.map (·.1))), rest)

def html? (x : Cutting) (cs : List Char) : Option (Cutting × List Char) :=
  match cs with
  | '<' :: rest =>
    match Html.endMark? rest with
    | some mark => some (x, skipMarkedHtml (cs.length + 1) x.containers mark cs)
    | none =>
      if Html.startsBlock rest || Html.standsAlone rest then
        some (x, skipHtml (cs.length + 1) x.containers cs)
      else none
  | _ => none

def block (x : Cutting) (s : Spot) : Cutting × List Char :=
  match blankLine? s.rest with
  | some rest => (x.emptyLine, rest)
  | none =>
    let (missing, t) := s.take 4
    let cs := t.rest
    if missing = 0 then (x.begun, skipIndented (cs.length + 1) x.containers cs)
    else
      match html? x cs with
      | some (x, rest) => (x.begun, rest)
      | none =>
        match thematicBreak? cs with
        | some rest => (x.begun, rest)
        | none =>
          if startsHeading cs then
            let (line, rest) := splitLine cs
            (x.begun.addText (line.drop (runLength '#' line)), rest)
          else
            match fence? cs with
            | some (mark, length) =>
              (x.begun, skipFenced (cs.length + 1) x.containers (4 - missing) mark length
                (afterLineFeed cs))
            | none =>
              match definition? x cs with
              | some found => found
              | none => ((table? x.begun cs).getD (paragraph x.begun cs))

def openAll (fuel : Nat) (x : Cutting) (s : Spot) : Cutting × List Char :=
  match fuel with
  | 0 => (x, [])
  | fuel + 1 =>
    let (missing, t) := s.take 4
    if missing = 0 then x.block s
    else
      match t.itemMark? (4 - missing) with
      | some (indent, content) =>
        let x := x.push (.item indent)
        match blankLine? content.rest with
        | some rest => ({ x with emptyItem := true }, rest)
        | none => openAll fuel x content
      | none =>
        match t.quoteMark? with
        | none => x.block s
        | some content =>
          let x := x.push .quote
          match alertLine? content.rest with
          | none => openAll fuel x content
          | some rest =>
            let (left, inner) := enterAll { rest } x.containers
            let (missing, u) := inner.take 4
            if missing ≠ 0 && interrupts x.containers left.isEmpty u.rest then (x, rest)
            else x.block u.skipSpaces

def run (fuel : Nat) (x : Cutting) (cs : List Char) : Cutting :=
  match fuel with
  | 0 => x
  | fuel + 1 =>
    if cs.isEmpty then x
    else
      let (left, s) := enterAll { rest := cs } x.containers
      let kept := x.containers.take (x.containers.length - left.length)
      let x := { x with containers := kept, emptyItem := x.emptyItem && left.isEmpty }
      let (x, rest) := openAll (cs.length + 1) x s
      run fuel x rest

end Cutting

def cutBlocks (cs : List Char) : List Leaf × List Definition :=
  let x := Cutting.run (cs.length + 1) {} cs
  (x.leaves.reverse, x.definitions.reverse)

end Signpost.Markdown
