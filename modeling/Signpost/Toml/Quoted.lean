import Signpost.Text.Digits

/-!
# Quoted texts

A text stands between single quotes as it is, and between double quotes with escapes. Three quotes
open and close a text over several lines; a line end right after the opening ones does not count.
-/

namespace Signpost.Toml

def isPrintable (c : Char) : Bool :=
  c = '\t' || (0x20 ≤ c.toNat && c.toNat ≠ 0x7F)

def isBlank (c : Char) : Bool :=
  c = ' ' || c = '\t'

def readLineEnd : List Char → Option (List Char)
  | '\n' :: rest => some rest
  | '\r' :: '\n' :: rest => some rest
  | _ => none

def readCode (count : Nat) (cs : List Char) : Option (Char × List Char) := do
  let digits := cs.take count
  if digits.length < count then none
  else
    let n ← Text.digits? 16 digits
    if (0xD800 ≤ n && n ≤ 0xDFFF) || 0x10FFFF < n then none
    else return (Char.ofNat n, cs.drop count)

def readEscape : List Char → Option (Char × List Char)
  | 'b' :: rest => some ('\x08', rest)
  | 't' :: rest => some ('\t', rest)
  | 'n' :: rest => some ('\n', rest)
  | 'f' :: rest => some ('\x0c', rest)
  | 'r' :: rest => some ('\r', rest)
  | 'e' :: rest => some ('\x1b', rest)
  | '"' :: rest => some ('"', rest)
  | '\\' :: rest => some ('\\', rest)
  | 'x' :: rest => readCode 2 rest
  | 'u' :: rest => readCode 4 rest
  | 'U' :: rest => readCode 8 rest
  | _ => none

def skipLines (fuel : Nat) (cs : List Char) : List Char :=
  match fuel with
  | 0 => cs
  | fuel + 1 =>
    let cs := cs.dropWhile isBlank
    match readLineEnd cs with
    | some rest => skipLines fuel rest
    | none => cs

def readEscapedLineEnd (cs : List Char) : Option (List Char) :=
  (readLineEnd (cs.dropWhile isBlank)).map fun rest => skipLines (rest.length + 1) rest

/-- A text on one line from the character after its opening quote; `before` is what was read, last
character first. -/
def readLine (fuel : Nat) (quote : Char) (before : List Char) (cs : List Char) :
    Option (String × List Char) :=
  match fuel with
  | 0 => none
  | fuel + 1 =>
    match cs with
    | [] => none
    | c :: rest =>
      if c = quote then some (String.ofList before.reverse, rest)
      else if quote = '"' && c = '\\' then do
        let (d, rest) ← readEscape rest
        readLine fuel quote (d :: before) rest
      else if isPrintable c then readLine fuel quote (c :: before) rest
      else none

/-- A text over several lines; three quotes end it, and up to two before them belong to it. -/
def readLines (fuel : Nat) (quote : Char) (before : List Char) (cs : List Char) :
    Option (String × List Char) :=
  match fuel with
  | 0 => none
  | fuel + 1 =>
    match cs with
    | [] => none
    | c :: rest =>
      if c = quote then
        let quotes := cs.takeWhile (· = quote)
        if quotes.length < 3 then readLines fuel quote (c :: before) rest
        else
          let kept := min (quotes.length - 3) 2
          some (String.ofList (before.reverse ++ List.replicate kept quote), cs.drop (kept + 3))
      else if quote = '"' && c = '\\' then
        match readEscapedLineEnd rest with
        | some rest => readLines fuel quote before rest
        | none => do
          let (d, rest) ← readEscape rest
          readLines fuel quote (d :: before) rest
      else if c = '\n' || isPrintable c then readLines fuel quote (c :: before) rest
      else
        match c, rest with
        | '\r', '\n' :: rest => readLines fuel quote ('\n' :: '\r' :: before) rest
        | _, _ => none

def opensLines (quote : Char) (cs : List Char) : Bool :=
  cs.take 3 == [quote, quote, quote]

def readQuoted (quote : Char) (cs : List Char) : Option (String × List Char) :=
  if opensLines quote cs then
    let body := cs.drop 3
    readLines (cs.length + 1) quote [] ((readLineEnd body).getD body)
  else readLine (cs.length + 1) quote [] (cs.drop 1)

end Signpost.Toml
