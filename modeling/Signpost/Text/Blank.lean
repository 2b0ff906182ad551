/-!
# White space

The characters that count as blank in labels, ids and headings, and the trimming that follows from
them. The class is the Unicode property `White_Space`, so a no-break space is blank and a zero width
space is not.
-/

namespace Signpost.Text

def isSpace (c : Char) : Bool :=
  let n := c.toNat
  (9 ≤ n && n ≤ 13) || n == 0x20 || n == 0x85 || n == 0xA0 || n == 0x1680 ||
    (0x2000 ≤ n && n ≤ 0x200A) || n == 0x2028 || n == 0x2029 || n == 0x202F || n == 0x205F ||
    n == 0x3000

def trimStartChars (cs : List Char) : List Char :=
  cs.dropWhile isSpace

def trimEndChars (cs : List Char) : List Char :=
  (cs.reverse.dropWhile isSpace).reverse

def trimChars (cs : List Char) : List Char :=
  trimEndChars (trimStartChars cs)

def trim (s : String) : String :=
  String.ofList (trimChars s.toList)

def isBlank (s : String) : Bool :=
  s.toList.all isSpace

theorem trimStartChars_eq_nil_iff {cs : List Char} :
    trimStartChars cs = [] ↔ cs.all isSpace = true := by
  induction cs with
  | nil => simp [trimStartChars]
  | cons c cs ih =>
    cases hc : isSpace c with
    | true =>
      rw [trimStartChars, List.dropWhile_cons_of_pos hc, List.all_cons, hc, Bool.true_and]
      exact ih
    | false => simp [trimStartChars, hc]

theorem trimStartChars_append_of_blank {space : List Char} (hspace : space.all isSpace = true)
    (rest : List Char) : trimStartChars (space ++ rest) = trimStartChars rest :=
  List.dropWhile_append_of_pos (List.all_eq_true.mp hspace)

theorem trimChars_append_of_blank {space : List Char} (hspace : space.all isSpace = true)
    (rest : List Char) : trimChars (space ++ rest) = trimChars rest := by
  rw [trimChars, trimStartChars_append_of_blank hspace, trimChars]

end Signpost.Text
