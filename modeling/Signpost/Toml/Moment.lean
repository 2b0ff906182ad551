import Signpost.Text.Digits

/-!
# Dates and times

A moment is a date, a time of day, or a date and a time with an optional distance from universal
time. Seconds may be left out, and a minute may have a leap second.
-/

namespace Signpost.Toml

def readField (count low high : Nat) (cs : List Char) : Option (Nat × List Char) :=
  let digits := cs.takeWhile Char.isDigit
  let n := Text.decimalValue digits
  if digits.length = count && low ≤ n && n ≤ high then some (n, cs.drop count) else none

def readMark (mark : Char) : List Char → Option (List Char)
  | c :: cs => if c = mark then some cs else none
  | [] => none

def daysOf (year month : Nat) : Nat :=
  if month = 2 then
    if year % 4 = 0 && (year % 100 ≠ 0 || year % 400 = 0) then 29 else 28
  else if [4, 6, 9, 11].contains month then 30
  else 31

def readDate (cs : List Char) : Option (List Char) := do
  let (year, cs) ← readField 4 0 9999 cs
  let (month, cs) ← readField 2 1 12 (← readMark '-' cs)
  let (_, cs) ← readField 2 1 (daysOf year month) (← readMark '-' cs)
  return cs

def readTime (cs : List Char) : Option (List Char) := do
  let (_, cs) ← readField 2 0 23 cs
  let (_, cs) ← readField 2 0 59 (← readMark ':' cs)
  match cs with
  | ':' :: cs =>
    let (_, cs) ← readField 2 0 60 cs
    match cs with
    | '.' :: cs =>
      if (cs.takeWhile Char.isDigit).isEmpty then none else return cs.dropWhile Char.isDigit
    | _ => return cs
  | _ => return cs

def readOffset (cs : List Char) : Option (List Char) :=
  match cs with
  | [] => some []
  | c :: rest =>
    if c = 'Z' || c = 'z' then some rest
    else if c = '+' || c = '-' then do
      let (_, rest) ← readField 2 0 23 rest
      let (_, rest) ← readField 2 0 59 (← readMark ':' rest)
      return rest
    else none

def readTimeAfterDate (cs : List Char) : Option (List Char) :=
  match cs with
  | [] => some []
  | c :: rest =>
    if c = 'T' || c = 't' || c = ' ' then (readTime rest).bind readOffset else none

def isMoment (cs : List Char) : Bool :=
  let dated := (readDate cs).bind readTimeAfterDate
  dated == some [] || readTime cs == some []

end Signpost.Toml
