import Signpost.Yaml.Block
import Signpost.Yaml.Quoted
import Signpost.Text.Utf8

/-!
# YAML tokens

A text is a run of tokens. Indentation shows as tokens that open and close block collections, and a
key that is only known as one by the colon after it gets its token put in front of it afterwards.
-/

namespace Signpost.Yaml

inductive Token where
  | version
  | tagHandle (handle lead : String)
  | documentStart
  | documentEnd
  | blockSequence
  | blockMapping
  | blockEnd
  | flowSequence
  | flowSequenceEnd
  | flowMapping
  | flowMappingEnd
  | blockEntry
  | flowEntry
  | key
  | value
  | alias (name : String)
  | anchor (name : String)
  | tag (handle suffix : String)
  | scalar (text : String) (plain : Bool)
deriving DecidableEq, Repr

/-- A place where a key may have begun. -/
structure KeyPlace where
  required : Bool
  number : Nat
  start : Cursor

structure Lexer where
  cursor : Cursor
  tokens : List Token := []
  indent : Option Nat := none
  /-- The columns of the block collections around that one, nearest first. -/
  outer : List (Option Nat) := []
  place : Option KeyPlace := none
  places : List (Option KeyPlace) := []
  keyAllowed : Bool := true

namespace Lexer

def inFlow (x : Lexer) : Bool :=
  !x.places.isEmpty

def emit (token : Token) (x : Lexer) : Lexer :=
  { x with tokens := token :: x.tokens }

def moveTo (c : Cursor) (x : Lexer) : Lexer :=
  { x with cursor := c }

def allowKey (allowed : Bool) (x : Lexer) : Lexer :=
  { x with keyAllowed := allowed }

/-- Puts a token in front of those after the first `number`. -/
def emitAt (number : Nat) (token : Token) (x : Lexer) : Lexer :=
  let later := x.tokens.length - number
  { x with tokens := x.tokens.take later ++ token :: x.tokens.drop later }

def dropPlace (x : Lexer) : Option Lexer :=
  if x.place.any (·.required) then none else some { x with place := none }

/-- A key does not go beyond its line or 1024 characters. -/
def dropStalePlace (x : Lexer) : Option Lexer :=
  let stale := x.place.any fun p =>
    p.start.line < x.cursor.line || p.start.index + 1024 < x.cursor.index
  if stale then x.dropPlace else some x

def notePlace (x : Lexer) : Option Lexer :=
  if !x.keyAllowed then some x
  else do
    let x ← x.dropPlace
    let required := !x.inFlow && x.indent == some x.cursor.column
    return { x with place := some ⟨required, x.tokens.length, x.cursor⟩ }

/-- Closes the block collections that are indented deeper than a column; without a column, all. -/
def closeBlocks (column : Option Nat) (x : Lexer) : Lexer :=
  if x.inFlow then x
  else
    let closed := (x.indent :: x.outer).takeWhile fun i =>
      match i, column with
      | some i, some column => column < i
      | some _, none => true
      | none, _ => false
    let left := (x.indent :: x.outer).drop closed.length
    { x with
      tokens := List.replicate closed.length Token.blockEnd ++ x.tokens
      indent := left.head?.getD none
      outer := left.drop 1 }

/-- Opens a block collection at a column that is deeper than the one around; its token stands in
front of those after the first `number`. -/
def openBlock (column number : Nat) (token : Token) (x : Lexer) : Lexer :=
  if x.inFlow || x.indent.any (column ≤ ·) then x
  else
    { x.emitAt number token with indent := some column, outer := x.indent :: x.outer }

def openBlockHere (token : Token) (x : Lexer) : Option Lexer :=
  if x.inFlow then some x
  else if x.keyAllowed then some (x.openBlock x.cursor.column x.tokens.length token)
  else none

def mark (token : Token) (x : Lexer) : Lexer :=
  (x.emit token).moveTo (x.cursor.skip 1)

def blockEntry (x : Lexer) : Option Lexer := do
  let x ← (← x.openBlockHere .blockSequence).dropPlace
  return (x.allowKey true).mark .blockEntry

def explicitKey (x : Lexer) : Option Lexer := do
  let x ← (← x.openBlockHere .blockMapping).dropPlace
  return (x.allowKey !x.inFlow).mark .key

def value (x : Lexer) : Option Lexer := do
  match x.place with
  | some place =>
    let x := { x with place := none }
    let x := (x.emitAt place.number .key).openBlock place.start.column place.number .blockMapping
    return (x.allowKey false).mark .value
  | none =>
    let x ← x.openBlockHere .blockMapping
    return (x.allowKey !x.inFlow).mark .value

def openFlow (token : Token) (x : Lexer) : Option Lexer := do
  let x ← x.notePlace
  return ({ x with place := none, places := x.place :: x.places }.allowKey true).mark token

def closeFlow (token : Token) (x : Lexer) : Option Lexer := do
  let x ← x.dropPlace
  let x := { x with place := x.places.head?.getD none, places := x.places.drop 1 }
  return (x.allowKey false).mark token

def flowEntry (x : Lexer) : Option Lexer := do
  return ((← x.dropPlace).allowKey true).mark .flowEntry

def node (x : Lexer) (read : Cursor → Option (Token × Cursor)) : Option Lexer := do
  let x ← x.notePlace
  let (token, next) ← read x.cursor
  return ((x.emit token).moveTo next).allowKey false

/-- A block scalar; a key may follow it. -/
def blockScalar (folded : Bool) (x : Lexer) : Option Lexer := do
  let x ← x.dropPlace
  let (text, next) ← readBlock folded (x.indent.elim 0 (· + 1)) (x.cursor.skip 1)
  return ((x.emit (.scalar (String.ofList text) false)).moveTo next).allowKey true

/-- A plain scalar; a key may follow it if a line ended in between. -/
def plainScalar (x : Lexer) : Option Lexer := do
  let x ← x.notePlace
  let c := x.cursor
  let found ← readPlain (c.rest.length + 1) x.inFlow (x.indent.elim 0 (· + 1)) [] {} c
  return ((x.emit (.scalar (String.ofList found.text) true)).moveTo found.after).allowKey
    found.broken

def leaveDocument (x : Lexer) : Option Lexer := do
  return (← (x.closeBlocks none).dropPlace).allowKey false

end Lexer

def readName (c : Cursor) : Option (String × Cursor) :=
  let (name, next) := (c.skip 1).span isWord
  let ends := next.gapAt 0 ||
    next.rest.head?.any (['?', ':', ',', ']', '\x7d', '%', '@', '`'].contains ·)
  if name.isEmpty || !ends then none else some (String.ofList name, next)

/-- Whether a character may stand in a tag; in a tag between angle brackets there are more. -/
def isTagChar (bracketed : Bool) (c : Char) : Bool :=
  isWord c
    || [';', '/', '?', ':', '@', '&', '=', '+', '$', '.', '!', '~', '*', '\'', '(', ')'].contains c
    || (bracketed && (c = ',' || c = '[' || c = ']'))

def readEscapedByte (c : Cursor) : Option (UInt8 × Cursor) :=
  match c.rest with
  | '%' :: a :: b :: _ => do
    return (UInt8.ofNat (16 * (← Text.hexValue a) + (← Text.hexValue b)), c.skip 3)
  | _ => none

def readFollowingBytes (c : Cursor) : Nat → Option (List UInt8 × Cursor)
  | 0 => some ([], c)
  | n + 1 => do
    let (byte, c) ← readEscapedByte c
    if byte &&& 0xC0 ≠ 0x80 then none
    else
      let (bytes, c) ← readFollowingBytes c n
      return (byte :: bytes, c)

def readEscapedChar (c : Cursor) : Option (List Char × Cursor) := do
  let (first, c) ← readEscapedByte c
  let following ←
    if first < 0x80 then some 0
    else if first &&& 0xE0 = 0xC0 then some 1
    else if first &&& 0xF0 = 0xE0 then some 2
    else if first &&& 0xF8 = 0xF0 then some 3
    else none
  let (bytes, c) ← readFollowingBytes c following
  return ((Text.decodeLossy (first :: bytes)).toList, c)

def readTagChars (fuel : Nat) (bracketed : Bool) (before : List Char) (c : Cursor) :
    Option (List Char × Cursor) :=
  match fuel with
  | 0 => none
  | fuel + 1 =>
    match c.rest with
    | [] => some (before.reverse, c)
    | x :: _ =>
      if x = '%' then do
        let (ys, next) ← readEscapedChar c
        readTagChars fuel bracketed (ys.reverse ++ before) next
      else if isTagChar bracketed x then readTagChars fuel bracketed (x :: before) (c.skip 1)
      else some (before.reverse, c)

def readTagText (bracketed : Bool) (c : Cursor) : Option (List Char × Cursor) :=
  readTagChars (c.rest.length + 1) bracketed [] c

def readHandle (c : Cursor) : Option (List Char × Bool × Cursor) :=
  if !c.sees '!' then none
  else
    let (word, next) := (c.skip 1).span isWord
    if next.sees '!' then some (word, true, next.skip 1) else some (word, false, next)

def readTagParts (c : Cursor) : Option (String × String × Cursor) :=
  if c.at? 1 = some '<' then do
    let (text, next) ← readTagText true (c.skip 2)
    if text.isEmpty || !next.sees '>' then none
    else return ("", String.ofList text, next.skip 1)
  else do
    let (word, closed, next) ← readHandle c
    let (text, next) ← readTagText false next
    if closed then
      if text.isEmpty then none
      else return (String.ofList ('!' :: word ++ ['!']), String.ofList text, next)
    else if word.isEmpty && text.isEmpty then return ("", "!", next)
    else return ("!", String.ofList (word ++ text), next)

def readTag (inFlow : Bool) (c : Cursor) : Option (Token × Cursor) := do
  let (handle, suffix, next) ← readTagParts c
  if next.gapAt 0 || (inFlow && next.sees ',') then return (.tag handle suffix, next) else none

def readVersionPart (c : Cursor) : Option (Nat × Cursor) :=
  let (digits, next) := c.span Char.isDigit
  if digits.isEmpty || 9 < digits.length then none
  else some (Text.decimalValue digits, next)

def readVersion (c : Cursor) : Option (Token × Cursor) := do
  let (major, c) ← readVersionPart (c.span isBlank).2
  if !c.sees '.' then none
  else
    let (minor, c) ← readVersionPart (c.skip 1)
    if major = 1 && (minor = 1 || minor = 2) then return (.version, c) else none

def readTagHandle (c : Cursor) : Option (Token × Cursor) := do
  let (word, closed, c) ← readHandle (c.span isBlank).2
  if (!closed && !word.isEmpty) || !blankAt c then none
  else
    let handle := '!' :: word ++ (if closed then ['!'] else [])
    let (lead, c) ← readTagText true (c.span isBlank).2
    if lead.isEmpty || !c.gapAt 0 then none
    else return (.tagHandle (String.ofList handle) (String.ofList lead), c)

def readDirective (c : Cursor) : Option (Token × Cursor) := do
  let (name, c) := (c.skip 1).span isWord
  if !c.gapAt 0 then none
  else
    let (token, c) ←
      if name = ['Y', 'A', 'M', 'L'] then readVersion c
      else if name = ['T', 'A', 'G'] then readTagHandle c
      else none
    let c := (c.span isBlank).2.skipComment
    if c.breaksAt 0 then return (token, c.nextLine.2) else none

namespace Lexer

/-- Passes blanks, comments and line ends. A tab is passed only where no key may begin. -/
def skipGap (fuel : Nat) (x : Lexer) : Lexer :=
  match fuel with
  | 0 => x
  | fuel + 1 =>
    let tabs := x.inFlow || !x.keyAllowed
    let lead := if x.cursor.index = 0 && x.cursor.sees '\uFEFF' then x.cursor.skip 1 else x.cursor
    let c := (lead.span fun y => y = ' ' || (tabs && y = '\t')).2.skipComment
    if c.atBreak then
      skipGap fuel { x with cursor := c.nextLine.2, keyAllowed := x.keyAllowed || !x.inFlow }
    else x.moveTo c

def startsPlain (x : Lexer) : Bool :=
  match x.cursor.rest with
  | [] => false
  | y :: _ =>
    let indicators := ['-', '?', ':', ',', '[', ']', '\x7b', '\x7d', '#', '&', '*', '!', '|', '>',
      '\'', '"', '%', '@', '`']
    let afterwards := x.cursor.at? 1
    (!isBlank y && !isBreak y && !indicators.contains y) || (y = '-' && !afterwards.any isBlank) ||
      (!x.inFlow && (y = '?' || y = ':') && !x.cursor.gapAt 1)

def next (x : Lexer) : Option Lexer := do
  let x ← (x.skipGap (x.cursor.rest.length + 1)).dropStalePlace
  let x := x.closeBlocks (some x.cursor.column)
  let c := x.cursor
  let quoted (quote : Char) (c : Cursor) : Option (Token × Cursor) := do
    let (text, next) ← readQuoted (c.rest.length + 1) quote [] (c.skip 1)
    return (.scalar (String.ofList text) false, next)
  match c.rest with
  | [] => x.leaveDocument
  | y :: _ =>
    if c.column = 0 && y = '%' then
      let x ← x.leaveDocument
      let (token, next) ← readDirective c
      return (x.emit token).moveTo next
    else if c.marksDocument '-' then
      return ((← x.leaveDocument).emit .documentStart).moveTo (c.skip 3)
    else if c.marksDocument '.' then
      return ((← x.leaveDocument).emit .documentEnd).moveTo (c.skip 3)
    else if y = '[' then x.openFlow .flowSequence
    else if y = '\x7b' then x.openFlow .flowMapping
    else if y = ']' then x.closeFlow .flowSequenceEnd
    else if y = '\x7d' then x.closeFlow .flowMappingEnd
    else if y = ',' then x.flowEntry
    else if y = '-' && c.gapAt 1 then x.blockEntry
    else if y = '?' && (x.inFlow || c.gapAt 1) then x.explicitKey
    else if y = ':' && (x.inFlow || c.gapAt 1) then x.value
    else if y = '*' then
      x.node fun c => (readName c).map fun (name, next) => (.alias name, next)
    else if y = '&' then
      x.node fun c => (readName c).map fun (name, next) => (.anchor name, next)
    else if y = '!' then x.node (readTag x.inFlow)
    else if (y = '|' || y = '>') && !x.inFlow then x.blockScalar (y = '>')
    else if y = '\'' || y = '"' then x.node (quoted y)
    else if x.startsPlain then x.plainScalar
    else none

def run (fuel : Nat) (x : Lexer) : Option Lexer :=
  match fuel with
  | 0 => none
  | fuel + 1 => do
    let x ← x.next
    if x.cursor.atEnd then x.next else run fuel x

end Lexer

def Token.ofText? (s : String) : Option (List Token) :=
  let cs := s.toList
  if !cs.all isAllowed then none
  else
    let cs := if cs.head? = some '\uFEFF' then cs.drop 1 else cs
    (Lexer.run (cs.length + 1) { cursor := { rest := cs } }).map (·.tokens.reverse)

end Signpost.Yaml
