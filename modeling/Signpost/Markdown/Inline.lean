import Signpost.Markdown.Block

/-!
# Links in a text

A text is read from left to right. Code, HTML and escapes take the meaning from the brackets in
them. A closing bracket belongs to the nearest open one, and the two make a link if a destination or
a defined label follows, or if the text between them is such a label. A link takes the meaning from
the open brackets before it, so that no link stands in another one; images may hold links.
-/

namespace Signpost.Markdown

inductive BracketKind where
  | link
  | image
  | inactive
deriving DecidableEq, Repr

structure Bracket where
  kind : BracketKind
  position : Nat
  after : List Char

structure Link where
  position : Nat
  destination : List Char
deriving DecidableEq, Repr

def separator (cs : List Char) : List Char :=
  let rest := cs.dropWhile isBlank
  match rest with
  | [] => []
  | c :: below => if isBreak c then below.dropWhile isBlank else rest

def inlineNesting : Nat := 32

def readTarget (cs : List Char) : Option (List Char × List Char) := do
  match cs with
  | '(' :: rest =>
    let (destination, rest) ← readDestination inlineNesting (separator rest)
    let rest := separator rest
    let rest := ((title? rest).map separator).getD rest
    match rest with
    | ')' :: rest => return (destination, rest)
    | _ => none
  | _ => none

def schemeEnd? (cs : List Char) : Option (List Char) :=
  match cs with
  | c :: _ =>
    let scheme := cs.takeWhile fun d => d.isAlphanum || d = '.' || d = '-' || d = '+'
    if c.isAlpha && 2 ≤ scheme.length && scheme.length ≤ 32 then
      match cs.drop scheme.length with
      | ':' :: rest => some rest
      | _ => none
    else none
  | [] => none

def readUri (cs : List Char) : Option (List Char × List Char) := do
  let body ← schemeEnd? cs
  let stop := body.dropWhile fun c => ' ' < c && c ≠ '<' && c ≠ '>'
  match stop with
  | '>' :: rest => return (cs.take (cs.length - stop.length), rest)
  | _ => none

def isMailChar (c : Char) : Bool :=
  c.isAlphanum || ['.', '!', '#', '$', '%', '&', '\'', '*', '+', '/', '=', '?', '^', '_', '`',
    '\x7b', '|', '\x7d', '~', '-'].contains c

/-- What follows the host of a mail address: words of at most 63 letters, digits and inner dashes,
with points between them. -/
def hostEnd? (fuel : Nat) (cs : List Char) : Option (List Char) :=
  match fuel with
  | 0 => none
  | fuel + 1 =>
    let word := cs.takeWhile fun c => c.isAlphanum || c = '-'
    if word.isEmpty || 63 < word.length || word.head? = some '-' || word.getLast? = some '-' then
      none
    else
      match cs.drop word.length with
      | '.' :: rest => hostEnd? fuel rest
      | rest => some rest

def readMail (cs : List Char) : Option (List Char × List Char) := do
  let name := cs.takeWhile isMailChar
  match cs.drop name.length with
  | '@' :: host =>
    if name.isEmpty then none
    else
      let stop ← hostEnd? (host.length + 1) host
      match stop with
      | '>' :: rest => return (cs.take (cs.length - stop.length), rest)
      | _ => none
  | _ => none

def codeEnd? (fuel length : Nat) (cs : List Char) : Option (List Char) :=
  match fuel with
  | 0 => none
  | fuel + 1 =>
    match cs.dropWhile (· ≠ '`') with
    | [] => none
    | rest =>
      let run := runLength '`' rest
      if run = length then some (rest.drop run) else codeEnd? fuel length (rest.drop run)

def pastBackslash (cs : List Char) : List Char :=
  match cs with
  | '\\' :: c :: rest => if isPunct c then c :: rest else cs
  | _ => cs

def plainBars : List Char → List Char
  | '\\' :: '|' :: rest => '|' :: plainBars rest
  | c :: rest => c :: plainBars rest
  | [] => []

structure Reading where
  /-- The open brackets, nearest first. -/
  opened : List Bracket := []
  /-- How long the text is after those closing brackets that ended an undefined label and so end no
  label again. -/
  spent : List Nat := []
  links : List Link := []

structure Setting where
  definitions : List Definition
  inTable : Bool
  length : Nat

namespace Setting

def meant (s : Setting) (destination : List Char) : List Char :=
  let cs := if s.inTable then plainBars destination else destination
  unescape (cs.length + 1) cs

def destinationOf? (s : Setting) (label : List Char) : Option (List Char) :=
  Markdown.destinationOf? s.definitions (if s.inTable then plainBars label else label)

end Setting

namespace Reading

def push (kind : BracketKind) (position : Nat) (after : List Char) (r : Reading) : Reading :=
  { r with opened := ⟨kind, position, after⟩ :: r.opened }

def add (position : Nat) (destination : List Char) (r : Reading) : Reading :=
  { r with links := ⟨position, destination⟩ :: r.links }

def finish (b : Bracket) (destination : List Char) (r : Reading) : Reading :=
  if b.kind = .link then
    { r.add b.position destination with
      opened := r.opened.map fun b => if b.kind = .link then { b with kind := .inactive } else b }
  else r

def innerLabel? (b : Bracket) (after : List Char) : Option (List Char) := do
  let inner := b.after.take (b.after.length - after.length)
  let (label, rest) ← readLabel ('[' :: inner)
  if rest.isEmpty then return label else none

/-- Closes a bracket; `after` is the text after the closing one. Gives the text to go on with. -/
def close (s : Setting) (r : Reading) (after : List Char) : Reading × List Char :=
  match r.opened with
  | [] => (r, after)
  | b :: others =>
    let r := { r with opened := others }
    if b.kind = .inactive then (r, after)
    else
      match readTarget after with
      | some (destination, rest) => (r.finish b (s.meant destination), rest)
      | none =>
        let inner (rest : List Char) : Reading × List Char :=
          if r.spent.contains after.length then (r, after)
          else
            match (innerLabel? b after).bind s.destinationOf? with
            | some destination => (r.finish b destination, rest)
            | none => (r, after)
        match pastBackslash after with
        | '[' :: ']' :: rest => inner rest
        | tail =>
          match readLabel tail with
          | some (label, rest) =>
            match s.destinationOf? label with
            | some destination => (r.finish b destination, rest)
            | none => ({ r with spent := rest.length :: r.spent }, after)
          | none => inner after

end Reading

def readText (fuel : Nat) (s : Setting) (r : Reading) (cs : List Char) : Reading :=
  match fuel with
  | 0 => r
  | fuel + 1 =>
    let position := s.length - cs.length
    match cs with
    | [] => r
    | '\\' :: '`' :: rest =>
      let run := runLength '`' rest
      let after := rest.drop run
      let next := if run = 0 then none else codeEnd? (after.length + 1) run after
      readText fuel s r (next.getD after)
    | '\\' :: c :: rest => readText fuel s r (if isPunct c then rest else c :: rest)
    | '`' :: rest =>
      let run := runLength '`' rest
      let after := rest.drop run
      readText fuel s r ((codeEnd? (after.length + 1) (run + 1) after).getD after)
    | '<' :: rest =>
      let tail := pastBackslash rest
      match (readUri tail).or (readMail tail) with
      | some (destination, rest) => readText fuel s (r.add position destination) rest
      | none => readText fuel s r ((Html.inline? tail).getD rest)
    | '!' :: '[' :: rest => readText fuel s (r.push .image position rest) rest
    | '[' :: rest => readText fuel s (r.push .link position rest) rest
    | ']' :: rest =>
      let (r, rest) := r.close s rest
      readText fuel s r rest
    | _ :: rest => readText fuel s r rest

def Leaf.links (definitions : List Definition) (leaf : Leaf) : List (List Char) :=
  let s : Setting := ⟨definitions, leaf.inTable, leaf.text.length⟩
  let found := (readText (leaf.text.length + 1) s {} leaf.text).links
  (found.mergeSort fun a b => a.position ≤ b.position).map (·.destination)

def links (text : String) : List String :=
  let (leaves, definitions) := cutBlocks text.toList
  (leaves.flatMap (Leaf.links definitions)).map String.ofList

end Signpost.Markdown
