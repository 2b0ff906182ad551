import Signpost.Text.Blank
import Signpost.Text.Case
import Signpost.Text.Cut

/-!
# Titles

The title of a document that does not say it itself: the first heading of the top level in its
body, or else the words of its file name with capital letters.
-/

namespace Signpost.Title

/-- What follows the first mark of a heading, which is a `#` that begins a line and has white space
after it. `begins` is whether a line begins here. -/
def afterMark? (begins : Bool) : List Char → Option (List Char)
  | [] => none
  | c :: cs =>
    if begins && c == '#' && cs.head?.any Text.isSpace then some cs
    else afterMark? (c == '\n') cs

/-- The first heading of the top level. Its text may begin on a later line than its mark, and ends
with the line that it begins on. -/
def heading? (body : String) : Option String :=
  (afterMark? true body.toList).bind fun rest =>
    let line := (Text.trimStartChars rest).takeWhile (· != '\n')
    if line.isEmpty then none else some (String.ofList (Text.trimEndChars line))

def capitalized (word : String) : String :=
  match word.toList with
  | [] => ""
  | c :: cs => String.ofList (Text.upperChar c ++ cs)

def words (name : String) : List String :=
  let spaced := name.toList.map fun c => if c = '-' || c = '_' then ' ' else c
  (Text.cut ' ' (String.ofList spaced)).filter (· ≠ "")

/-- The title that a file name without its extension gives. -/
def ofName (name : String) : String :=
  Text.join " " ((words (Text.toLower name)).map capitalized)

end Signpost.Title
