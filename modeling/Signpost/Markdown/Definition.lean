import Signpost.Markdown.Entity
import Signpost.Markdown.Line
import Signpost.Text.Case

/-!
# Labels, destinations and link definitions

A link names its destination in parentheses, or by a label that is defined elsewhere. Labels are
compared without regard to case and to the amount of white space in them.
-/

namespace Signpost.Markdown

def normalLabel (cs : List Char) : List Char :=
  let rec collapse (spaced : Bool) : List Char → List Char
    | [] => []
    | c :: cs =>
      if isSpace c then collapse true cs
      else (if spaced then [' ', c] else [c]) ++ collapse false cs
  Text.foldChars (collapse false (cs.dropWhile isSpace))

def labelLimit : Nat := 1000

/-- A label from the character after its opening bracket, and what follows its closing bracket.
`weight` is how much of it counts towards the limit, and `before` what was read, last character
first. -/
def readLabelFrom (fuel weight : Nat) (before : List Char) (cs : List Char) :
    Option (List Char × List Char) :=
  match fuel with
  | 0 => none
  | fuel + 1 =>
    if labelLimit ≤ weight then none
    else
      match cs with
      | [] => none
      | '[' :: _ => none
      | ']' :: rest => if before.all isSpace then none else some (before.reverse, rest)
      | '\\' :: c :: rest => readLabelFrom fuel (weight + 2) (c :: '\\' :: before) rest
      | c :: rest =>
        let own := if isSpace c then 1 else if c.toNat < 0x80 then 0 else c.utf8Size
        readLabelFrom fuel (weight + own) (c :: before) rest

def readLabel (cs : List Char) : Option (List Char × List Char) :=
  match cs with
  | '[' :: rest => readLabelFrom (rest.length + 1) 0 [] rest
  | _ => none

def unescape (fuel : Nat) (cs : List Char) : List Char :=
  match fuel with
  | 0 => cs
  | fuel + 1 =>
    match cs with
    | [] => []
    | '\\' :: c :: rest =>
      if isPunct c then c :: unescape fuel rest else '\\' :: unescape fuel (c :: rest)
    | '&' :: rest =>
      match readEntity rest with
      | some (text, rest) => text ++ unescape fuel rest
      | none => '&' :: unescape fuel rest
    | c :: rest => if c = '\r' then unescape fuel rest else c :: unescape fuel rest

/-- A destination between angle brackets from the character after the opening one, and what
follows; `before` is what was read, last character first. -/
def readBracketed (before : List Char) : List Char → Option (List Char × List Char)
  | [] => none
  | '>' :: rest => some (before.reverse, rest)
  | '\\' :: c :: rest =>
    if isPunct c then readBracketed (c :: '\\' :: before) rest
    else if isBreak c then none
    else readBracketed (c :: '\\' :: before) rest
  | c :: rest => if c = '<' || isBreak c then none else readBracketed (c :: before) rest

/-- A destination without brackets, and what follows. Parentheses in it are balanced; `depth` is how
many are open, and no more than `limit` others may be around a further one. -/
def readBare (limit depth : Nat) (before : List Char) : List Char → Option (List Char × List Char)
  | [] => if depth = 0 then some (before.reverse, []) else none
  | c :: rest =>
    if c.toNat ≤ 0x20 then if depth = 0 then some (before.reverse, c :: rest) else none
    else if c = '(' then
      if limit < depth then none else readBare limit (depth + 1) (c :: before) rest
    else if c = ')' then
      if depth = 0 then some (before.reverse, c :: rest)
      else readBare limit (depth - 1) (c :: before) rest
    else
      match c, rest with
      | '\\', d :: rest =>
        if isPunct d then readBare limit depth (d :: '\\' :: before) rest
        else readBare limit depth ('\\' :: before) (d :: rest)
      | _, rest => readBare limit depth (c :: before) rest

def readDestination (limit : Nat) (cs : List Char) : Option (List Char × List Char) :=
  match cs with
  | '<' :: rest => readBracketed [] rest
  | _ => readBare limit 0 [] cs

def titleEnd? (closing : Char) : List Char → Option (List Char)
  | [] => none
  | '\\' :: c :: rest => if isPunct c then titleEnd? closing rest else titleEnd? closing (c :: rest)
  | c :: rest =>
    if c = closing then some rest
    else if closing = ')' && c = '(' then none
    else titleEnd? closing rest

def title? (cs : List Char) : Option (List Char) :=
  match cs with
  | '"' :: rest => titleEnd? '"' rest
  | '\'' :: rest => titleEnd? '\'' rest
  | '(' :: rest => titleEnd? ')' rest
  | _ => none

structure Definition where
  label : List Char
  destination : List Char
deriving DecidableEq, Repr

def destinationOf? (definitions : List Definition) (label : List Char) : Option (List Char) :=
  (definitions.find? fun d => d.label = normalLabel label).map (·.destination)

/-- White space with at most one line end in it, before further text; tells whether there was a line
end. -/
def definitionSpace? (cs : List Char) : Option (Bool × List Char) :=
  match cs.dropWhile isBlank with
  | [] => none
  | '\n' :: rest =>
    match rest.dropWhile isBlank with
    | [] => none
    | c :: rest => if isBreak c then none else some (true, c :: rest)
  | rest => some (false, rest)

def definitionNesting : Nat := 1

/-- A definition at the beginning of the lines of a paragraph, and the lines after it. Nothing else
may stand on its lines; a title that is no title is left out if it stands on a line of its own. -/
def readDefinition (cs : List Char) : Option (Definition × List Char) := do
  let (label, rest) ← readLabel cs
  match rest with
  | ':' :: rest =>
    let (_, start) ← definitionSpace? rest
    let (destination, rest) ← readDestination definitionNesting start
    if rest.length = start.length then none
    else
      let found : Definition :=
        ⟨normalLabel label, unescape (destination.length + 1) destination⟩
      let untitled := (blankLine? rest).map fun rest => (found, rest)
      match definitionSpace? rest with
      | none => untitled
      | some (newLine, tail) =>
        if tail.length = rest.length then none
        else
          match (title? tail).bind blankLine? with
          | some rest => return (found, rest)
          | none => if newLine then untitled else none
  | _ => none

end Signpost.Markdown
