import Signpost.Toml.Quoted
import Signpost.Toml.Scalar
import Signpost.Toml.Table

/-!
# Reading TOML

A document is a run of lines: headings, and keys with values. Arrays and tables that are written as
values nest at most 80 deep.
-/

namespace Signpost.Toml

def maxDepth : Nat := 80

def skipBlanks (cs : List Char) : List Char :=
  cs.dropWhile isBlank

def skipComment (cs : List Char) : List Char :=
  match cs with
  | '#' :: rest => rest.dropWhile isPrintable
  | _ => cs

def skipGap (fuel : Nat) (cs : List Char) : List Char :=
  match fuel with
  | 0 => cs
  | fuel + 1 =>
    let rest := skipComment (skipBlanks cs)
    match readLineEnd rest with
    | some rest => skipGap fuel rest
    | none => rest

def readRestOfLine (cs : List Char) : Option (List Char) :=
  match skipComment (skipBlanks cs) with
  | [] => some []
  | rest => readLineEnd rest

def isBare (c : Char) : Bool :=
  c.isAlphanum || c = '-' || c = '_'

def readKeyPart (cs : List Char) : Option (String × List Char) :=
  match cs with
  | [] => none
  | c :: _ =>
    if c = '"' || c = '\'' then if opensLines c cs then none else readQuoted c cs
    else
      let name := cs.takeWhile isBare
      if name.isEmpty then none else some (String.ofList name, cs.dropWhile isBare)

def readKey (fuel : Nat) (cs : List Char) : Option (List String × List Char) :=
  match fuel with
  | 0 => none
  | fuel + 1 => do
    let (part, rest) ← readKeyPart (skipBlanks cs)
    match skipBlanks rest with
    | '.' :: rest =>
      let (parts, rest) ← readKey fuel rest
      return (part :: parts, rest)
    | rest => return ([part], rest)

def endsScalar (c : Char) : Bool :=
  ['=', ',', '[', ']', '\x7b', '\x7d', ' ', '\t', '#', '\r', '\n'].contains c

/-- A value without quotes; between a date and a time there may be one space. -/
def readScalar (cs : List Char) : Option (Value × List Char) := do
  let word := cs.takeWhile (!endsScalar ·)
  let rest := cs.dropWhile (!endsScalar ·)
  match rest with
  | ' ' :: d :: _ =>
    if readDate word = some [] && d.isDigit then
      let time := (rest.drop 1).takeWhile (!endsScalar ·)
      return (← scalar? (word ++ ' ' :: time), rest.drop (1 + time.length))
    else return (← scalar? word, rest)
  | _ => return (← scalar? word, rest)

mutual

/-- A value, and what follows; `depth` is how deep it may still nest. -/
def readValue (fuel depth : Nat) (cs : List Char) : Option (Value × List Char) :=
  match fuel with
  | 0 => none
  | fuel + 1 =>
    match cs with
    | '"' :: _ => (readQuoted '"' cs).map fun (s, rest) => (.text s, rest)
    | '\'' :: _ => (readQuoted '\'' cs).map fun (s, rest) => (.text s, rest)
    | '[' :: rest =>
      match depth with
      | 0 => none
      | depth + 1 => (readItems fuel depth rest).map fun (items, rest) => (.array items, rest)
    | '\x7b' :: rest =>
      match depth with
      | 0 => none
      | depth + 1 =>
        (readPairs fuel depth [] rest).map fun (entries, rest) =>
          (.table (finishEntries entries), rest)
    | _ => readScalar cs

def readItems (fuel depth : Nat) (cs : List Char) : Option (List Value × List Char) :=
  match fuel with
  | 0 => none
  | fuel + 1 =>
    match skipGap (cs.length + 1) cs with
    | ']' :: rest => some ([], rest)
    | cs => do
      let (item, rest) ← readValue fuel depth cs
      match skipGap (rest.length + 1) rest with
      | ',' :: rest =>
        let (items, rest) ← readItems fuel depth rest
        return (item :: items, rest)
      | ']' :: rest => return ([item], rest)
      | _ => none

/-- The entries of a table up to its closing brace, after the entries in `before`. -/
def readPairs (fuel depth : Nat) (before : Entries) (cs : List Char) :
    Option (Entries × List Char) :=
  match fuel with
  | 0 => none
  | fuel + 1 =>
    match skipGap (cs.length + 1) cs with
    | '\x7d' :: rest => some (before, rest)
    | cs => do
      let (way, key, value, rest) ← readPair fuel depth cs
      let entries ← before.insert way key value .heading
      match skipGap (rest.length + 1) rest with
      | ',' :: rest => readPairs fuel depth entries rest
      | '\x7d' :: rest => return (entries, rest)
      | _ => none

def readPair (fuel depth : Nat) (cs : List Char) :
    Option (List String × String × Value × List Char) :=
  match fuel with
  | 0 => none
  | fuel + 1 => do
    let (parts, rest) ← readKey (cs.length + 1) cs
    let key ← parts.getLast?
    match rest with
    | '=' :: rest =>
      let (value, rest) ← readValue fuel depth (skipBlanks rest)
      return (parts.dropLast, key, value, rest)
    | _ => none

end

structure Draft where
  entries : Entries := []
  heading : List String := []

def Draft.readHeading (d : Draft) (cs : List Char) : Option (Draft × List Char) := do
  let isNext := cs.take 2 == ['[', '[']
  let (parts, rest) ← readKey (cs.length + 1) (cs.drop (if isNext then 2 else 1))
  let key ← parts.getLast?
  match isNext, rest with
  | true, ']' :: ']' :: rest =>
    return (⟨← d.entries.openNext parts.dropLast key, parts⟩, rest)
  | false, ']' :: rest =>
    return (⟨← d.entries.openTable parts.dropLast key, parts⟩, rest)
  | _, _ => none

def Draft.readLines (fuel : Nat) (d : Draft) (cs : List Char) : Option Draft :=
  match fuel with
  | 0 => none
  | fuel + 1 =>
    match skipGap (cs.length + 1) cs with
    | [] => some d
    | '[' :: rest => do
      let (d, rest) ← d.readHeading ('[' :: rest)
      Draft.readLines fuel d (← readRestOfLine rest)
    | cs => do
      let (way, key, value, rest) ← readPair (2 * cs.length + 2) maxDepth cs
      let entries ← d.entries.alterOpened d.heading fun entries =>
        entries.insert way key value .heading
      Draft.readLines fuel { d with entries } (← readRestOfLine rest)

def parse? (s : String) : Option (List (String × Value)) :=
  let cs := s.toList
  let cs := if cs.head? = some '\uFEFF' then cs.drop 1 else cs
  (Draft.readLines (cs.length + 1) {} cs).map fun d => finishEntries d.entries

end Signpost.Toml
