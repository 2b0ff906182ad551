import Signpost.Json.Parser
import Signpost.Json.Printer
import Mathlib.Data.List.Forall2
import Mathlib.Data.List.Nodup
import Mathlib.Data.List.TakeWhile

/-!
# Reading back what was printed

Both forms of a value spell it: the parts of the value stand in order, with blanks between them. The
reader comes back to the value from whatever spells it. Objects have to be without repeated keys,
because the reader keeps only one entry for each key, and numbers are left out.
-/

namespace Signpost.Json

/-! ### Blanks -/

def AreBlank (cs : List Char) : Prop :=
  ∀ c ∈ cs, isBlank c = true

theorem areBlank_nil : AreBlank [] := by
  simp [AreBlank]

theorem areBlank_newline : AreBlank "\n".toList := by
  simp [AreBlank, isBlank]

theorem AreBlank.append {blanks more : List Char} (hblanks : AreBlank blanks)
    (hmore : AreBlank more) : AreBlank (blanks ++ more) := by
  intro c hc
  exact (List.mem_append.mp hc).elim (hblanks c) (hmore c)

theorem areBlank_margin (depth : Nat) : AreBlank (margin depth).toList := by
  intro c hc
  rw [margin, String.toList_ofList] at hc
  rw [(List.mem_replicate.mp hc).2]
  rfl

theorem AreBlank.skipBlanks_append {blanks : List Char} (hblanks : AreBlank blanks)
    (rest : List Char) : skipBlanks (blanks ++ rest) = skipBlanks rest := by
  rw [skipBlanks, List.dropWhile_append_of_pos hblanks]
  rfl

theorem skipBlanks_cons {c : Char} (hc : isBlank c = false) (cs : List Char) :
    skipBlanks (c :: cs) = c :: cs := by
  simp [skipBlanks, hc]

theorem AreBlank.skipBlanks_append_cons {blanks : List Char} (hblanks : AreBlank blanks) {c : Char}
    (hc : isBlank c = false) (rest : List Char) :
    skipBlanks (blanks ++ c :: rest) = c :: rest := by
  rw [hblanks.skipBlanks_append, skipBlanks_cons hc]

theorem skipBlanks_skipBlanks (cs : List Char) : skipBlanks (skipBlanks cs) = skipBlanks cs := by
  induction cs with
  | nil => rfl
  | cons c cs ih =>
      cases hc : isBlank c with
      | false => rw [skipBlanks_cons hc, skipBlanks_cons hc]
      | true => simpa [skipBlanks, hc] using ih

/-! ### Strings -/

theorem hexValue_hexDigit : ∀ n < 16, Text.hexValue (hexDigit n) = some n := by
  decide

theorem readUnicodeEscape_control {c : Char} (hc : c.toNat < 0x20) (rest : List Char) :
    readUnicodeEscape ('0' :: '0' :: hexDigit (c.toNat / 16) :: hexDigit (c.toNat % 16) :: rest) =
      some (c, rest) := by
  have hzero : Text.hexValue '0' = some 0 := by decide
  have hhigh := hexValue_hexDigit (c.toNat / 16) (by omega)
  have hlow := hexValue_hexDigit (c.toNat % 16) (by omega)
  have hunit : c.toNat / 16 * 16 + c.toNat % 16 = c.toNat := Nat.div_add_mod' c.toNat 16
  have hplain : c.toNat < 0xD800 := by omega
  simp [readUnicodeEscape, readHex4, hzero, hhigh, hlow, hunit, hplain, Char.ofNat_toNat]

/-- A character in its escaped form is read as this character. -/
theorem readString_escapeChar (fuel : Nat) (before : List Char) (c : Char) (rest : List Char) :
    readString (fuel + 1) before (escapeChar c ++ rest) = readString fuel (c :: before) rest := by
  unfold escapeChar
  split_ifs with hquote hbackslash hback htab hline hfeed hreturn hcontrol
  · simp [hquote, readString, simpleEscape]
  · simp [hbackslash, readString, simpleEscape]
  · simp [hback, readString, simpleEscape]
  · simp [htab, readString, simpleEscape]
  · simp [hline, readString, simpleEscape]
  · simp [hfeed, readString, simpleEscape]
  · simp [hreturn, readString, simpleEscape]
  · simp [readString, readUnicodeEscape_control hcontrol]
  · simp [readString, hbackslash, hcontrol]

/-- What stands between the quotes of a string is read up to the closing one. -/
theorem readString_flatMap_escapeChar (cs before rest : List Char) {fuel : Nat}
    (hfuel : cs.length < fuel) :
    readString fuel before (cs.flatMap escapeChar ++ '"' :: rest) =
      some (String.ofList (before.reverse ++ cs), rest) := by
  induction cs generalizing before fuel with
  | nil =>
      obtain ⟨fuel, rfl⟩ := Nat.exists_eq_add_one.mpr hfuel
      simp [readString]
  | cons c cs ih =>
      obtain ⟨fuel, rfl⟩ := Nat.exists_eq_add_one.mpr (Nat.zero_lt_of_lt hfuel)
      rw [List.flatMap_cons, List.append_assoc, readString_escapeChar,
        ih (c :: before) (Nat.lt_of_succ_lt_succ hfuel)]
      simp

theorem length_escapeChar_pos (c : Char) : 0 < (escapeChar c).length := by
  unfold escapeChar
  split_ifs <;> exact Nat.zero_lt_succ _

theorem length_le_length_flatMap_escapeChar (cs : List Char) :
    cs.length ≤ (cs.flatMap escapeChar).length := by
  induction cs with
  | nil => exact Nat.le_refl 0
  | cons c cs ih =>
      have hc := length_escapeChar_pos c
      rw [List.flatMap_cons, List.length_append, List.length_cons]
      omega

theorem readString_quote (s : String) (rest : List Char) :
    ∃ inner, (quote s).toList ++ rest = '"' :: inner ∧
      readString (inner.length + 1) [] inner = some (s, rest) := by
  refine ⟨s.toList.flatMap escapeChar ++ '"' :: rest, by simp [quote], ?_⟩
  have hlength := length_le_length_flatMap_escapeChar s.toList
  rw [readString_flatMap_escapeChar]
  · simp
  · rw [List.length_append]
    omega

/-! ### What spells a value -/

/-- The pieces stand in order, with commas between them and blanks around each. -/
def IsRow : List (List Char) → List Char → Prop
  | [], cs => AreBlank cs
  | [piece], cs =>
    ∃ before after, AreBlank before ∧ AreBlank after ∧ cs = before ++ (piece ++ after)
  | piece :: pieces, cs =>
    ∃ before after more, AreBlank before ∧ AreBlank after ∧
      cs = before ++ (piece ++ (after ++ ',' :: more)) ∧ IsRow pieces more

mutual

/-- The characters spell a value. -/
def Spells : Json → List Char → Prop
  | .null, cs => cs = ['n', 'u', 'l', 'l']
  | .bool true, cs => cs = ['t', 'r', 'u', 'e']
  | .bool false, cs => cs = ['f', 'a', 'l', 's', 'e']
  | .num _, _ => False
  | .str s, cs => cs = (quote s).toList
  | .arr items, cs =>
    ∃ pieces inner, SpellItems items pieces ∧ IsRow pieces inner ∧ cs = '[' :: (inner ++ [']'])
  | .obj fields, cs =>
    ∃ pieces inner, (fields.map (·.1)).Nodup ∧ SpellFields fields pieces ∧ IsRow pieces inner ∧
      cs = '\x7b' :: (inner ++ ['\x7d'])

/-- The pieces spell the items one by one. -/
def SpellItems : List Json → List (List Char) → Prop
  | [], pieces => pieces = []
  | item :: items, pieces =>
    ∃ first rest, pieces = first :: rest ∧ Spells item first ∧ SpellItems items rest

/-- The pieces spell the fields one by one. -/
def SpellFields : List (String × Json) → List (List Char) → Prop
  | [], pieces => pieces = []
  | (key, value) :: fields, pieces =>
    ∃ gap own rest, pieces = ((quote key).toList ++ ':' :: (gap ++ own)) :: rest ∧ AreBlank gap ∧
      Spells value own ∧ SpellFields fields rest

end

/-! ### One step of the reader -/

section Steps

variable {fuel depth : Nat} {cs rest tail inner after more : List Char} {item value : Json}
  {key : String} {before : List (String × Json)}

/-- The blanks before a value make no difference. -/
theorem readValue_congr {other : List Char} (hsame : skipBlanks cs = skipBlanks other) :
    readValue fuel depth cs = readValue fuel depth other := by
  cases fuel with
  | zero => rfl
  | succ fuel => rw [readValue, readValue, hsame]

theorem readItems_congr {other : List Char} (hsame : skipBlanks cs = skipBlanks other) :
    readItems fuel depth cs = readItems fuel depth other := by
  cases fuel with
  | zero => rfl
  | succ fuel => rw [readItems, readItems, readValue_congr hsame]

theorem readFields_congr {other : List Char} (hsame : skipBlanks cs = skipBlanks other) :
    readFields fuel depth before cs = readFields fuel depth before other := by
  cases fuel with
  | zero => rfl
  | succ fuel => rw [readFields, readFields, hsame]

theorem readValue_bracket_nil (hcs : skipBlanks cs = ']' :: tail) :
    readValue (fuel + 1) (depth + 1) ('[' :: cs) = some (.arr [], tail) := by
  have hskip : skipBlanks ('[' :: cs) = '[' :: cs := skipBlanks_cons rfl cs
  rw [readValue, hskip]
  simp [hcs]

theorem readValue_bracket {items : List Json} (hcs : ∀ rest, skipBlanks cs ≠ ']' :: rest)
    (hitems : readItems fuel depth cs = some (items, tail)) :
    readValue (fuel + 1) (depth + 1) ('[' :: cs) = some (.arr items, tail) := by
  have hskip : skipBlanks ('[' :: cs) = '[' :: cs := skipBlanks_cons rfl cs
  rw [← readItems_congr (skipBlanks_skipBlanks cs)] at hitems
  rw [readValue, hskip]
  simp [hitems]

theorem readValue_brace_nil (hcs : skipBlanks cs = '\x7d' :: tail) :
    readValue (fuel + 1) (depth + 1) ('\x7b' :: cs) = some (.obj [], tail) := by
  have hskip : skipBlanks ('\x7b' :: cs) = '\x7b' :: cs := skipBlanks_cons rfl cs
  rw [readValue, hskip]
  simp [hcs]

theorem readValue_brace {fields : List (String × Json)}
    (hcs : ∀ rest, skipBlanks cs ≠ '\x7d' :: rest)
    (hfields : readFields fuel depth [] cs = some (fields, tail)) :
    readValue (fuel + 1) (depth + 1) ('\x7b' :: cs) = some (.obj fields, tail) := by
  have hskip : skipBlanks ('\x7b' :: cs) = '\x7b' :: cs := skipBlanks_cons rfl cs
  rw [← readFields_congr (skipBlanks_skipBlanks cs)] at hfields
  rw [readValue, hskip]
  simp [hfields]

theorem readItems_last (hitem : readValue fuel depth cs = some (item, rest))
    (hrest : skipBlanks rest = ']' :: tail) :
    readItems (fuel + 1) depth cs = some ([item], tail) := by
  rw [readItems, hitem]
  simp [hrest]

theorem readItems_cons {items : List Json} (hitem : readValue fuel depth cs = some (item, rest))
    (hrest : skipBlanks rest = ',' :: inner)
    (hitems : readItems fuel depth inner = some (items, tail)) :
    readItems (fuel + 1) depth cs = some (item :: items, tail) := by
  rw [readItems, hitem]
  simp [hrest, hitems]

theorem readFields_last (hkey : skipBlanks cs = '"' :: inner)
    (hread : readString (inner.length + 1) [] inner = some (key, ':' :: rest))
    (hvalue : readValue fuel depth rest = some (value, after))
    (hafter : skipBlanks after = '\x7d' :: tail) :
    readFields (fuel + 1) depth before cs = some (put key value before, tail) := by
  have hskip : skipBlanks (':' :: rest) = ':' :: rest := skipBlanks_cons rfl rest
  rw [readFields, hkey]
  simp [hread, hskip, hvalue, hafter]

theorem readFields_cons (hkey : skipBlanks cs = '"' :: inner)
    (hread : readString (inner.length + 1) [] inner = some (key, ':' :: rest))
    (hvalue : readValue fuel depth rest = some (value, after))
    (hafter : skipBlanks after = ',' :: more) :
    readFields (fuel + 1) depth before cs = readFields fuel depth (put key value before) more := by
  have hskip : skipBlanks (':' :: rest) = ':' :: rest := skipBlanks_cons rfl rest
  rw [readFields, hkey]
  simp [hread, hskip, hvalue, hafter]

end Steps

/-! ### Whole values -/

theorem put_of_notMem {key : String} {fields : List (String × Json)}
    (hkey : key ∉ fields.map (·.1)) (value : Json) :
    put key value fields = fields ++ [(key, value)] := by
  induction fields with
  | nil => rfl
  | cons field fields ih =>
      rw [List.map_cons, List.mem_cons, not_or] at hkey
      obtain ⟨hne, hrest⟩ := hkey
      rw [put, if_neg (Ne.symm hne), ih hrest, List.cons_append]

/-- What spells a value begins with a character of its own. -/
theorem Spells.exists_cons {value : Json} {cs : List Char} (hspells : Spells value cs) :
    ∃ c rest, cs = c :: rest ∧ isBlank c = false ∧ c ≠ ']' := by
  cases value with
  | null =>
      rw [Spells] at hspells
      exact ⟨_, _, hspells, rfl, by decide⟩
  | bool value =>
      cases value <;>
      · rw [Spells] at hspells
        exact ⟨_, _, hspells, rfl, by decide⟩
  | num value => exact hspells.elim
  | str s =>
      rw [Spells] at hspells
      exact ⟨'"', _, by rw [hspells, quote, String.toList_ofList, List.cons_append], rfl, by decide⟩
  | arr items =>
      obtain ⟨pieces, inner, -, -, hcs⟩ := hspells
      exact ⟨'[', _, hcs, rfl, by decide⟩
  | obj fields =>
      obtain ⟨pieces, inner, -, -, -, hcs⟩ := hspells
      exact ⟨'\x7b', _, hcs, rfl, by decide⟩

theorem IsRow.exists_before {piece : List Char} {pieces : List (List Char)} {cs : List Char}
    (hrow : IsRow (piece :: pieces) cs) :
    ∃ before after, AreBlank before ∧ cs = before ++ (piece ++ after) := by
  cases pieces with
  | nil =>
      obtain ⟨before, after, hbefore, -, hcs⟩ := hrow
      exact ⟨before, after, hbefore, hcs⟩
  | cons next pieces =>
      obtain ⟨before, after, more, hbefore, -, hcs, -⟩ := hrow
      exact ⟨before, after ++ ',' :: more, hbefore, hcs⟩

/-- A row does not begin with what closes it, unless there is nothing in it. -/
theorem IsRow.skipBlanks_ne {piece rest cs tail : List Char} {pieces : List (List Char)}
    {c d : Char} (hrow : IsRow (piece :: pieces) cs) (hpiece : piece = c :: rest)
    (hblank : isBlank c = false) (hne : c ≠ d) (other : List Char) : skipBlanks (cs ++ tail) ≠ d :: other := by
  obtain ⟨before, after, hbefore, rfl⟩ := hrow.exists_before
  rw [List.append_assoc, hpiece, List.cons_append, List.cons_append,
    hbefore.skipBlanks_append_cons hblank]
  exact fun heq => hne (List.cons.inj heq).1

mutual

/-- The reader comes back to a value from what spells it, and stops there. Every step down in the
value takes characters, so their number bounds the fuel and the depth. -/
theorem readValue_of_spells (value : Json) {cs : List Char} (hspells : Spells value cs)
    {fuel depth : Nat} (hfuel : 2 * cs.length < fuel) (hdepth : cs.length ≤ depth)
    (tail : List Char) : readValue fuel depth (cs ++ tail) = some (value, tail) := by
  obtain ⟨fuel, rfl⟩ := Nat.exists_eq_add_one.mpr (Nat.zero_lt_of_lt hfuel)
  cases value with
  | null =>
      rw [Spells] at hspells
      rw [hspells]
      rfl
  | bool value =>
      cases value <;>
      · rw [Spells] at hspells
        rw [hspells]
        rfl
  | num value => exact hspells.elim
  | str s =>
      rw [Spells] at hspells
      obtain ⟨inner, hquote, hread⟩ := readString_quote s tail
      rw [hspells, hquote, readValue, skipBlanks_cons rfl]
      simp [hread]
  | arr items =>
      obtain ⟨pieces, inner, hitems, hrow, rfl⟩ := hspells
      simp only [List.length_cons, List.length_append, List.length_nil] at hfuel hdepth
      obtain ⟨depth, rfl⟩ := Nat.exists_eq_add_one.mpr (Nat.zero_lt_of_lt hdepth)
      rw [List.cons_append, List.append_assoc, List.singleton_append]
      cases items with
      | nil =>
          rw [SpellItems] at hitems
          subst hitems
          exact readValue_bracket_nil (AreBlank.skipBlanks_append_cons hrow rfl tail)
      | cons item items =>
          have hread : readItems fuel depth (inner ++ ']' :: tail) = some (item :: items, tail) :=
            readItems_of_spells (item :: items) (by simp) hitems hrow (by omega) (by omega) tail
          obtain ⟨own, rest, rfl, hown, -⟩ := hitems
          obtain ⟨c, others, hcons, hblank, hne⟩ := hown.exists_cons
          exact readValue_bracket (hrow.skipBlanks_ne hcons hblank hne) hread
  | obj fields =>
      obtain ⟨pieces, inner, hnodup, hfields, hrow, rfl⟩ := hspells
      simp only [List.length_cons, List.length_append, List.length_nil] at hfuel hdepth
      obtain ⟨depth, rfl⟩ := Nat.exists_eq_add_one.mpr (Nat.zero_lt_of_lt hdepth)
      rw [List.cons_append, List.append_assoc, List.singleton_append]
      cases fields with
      | nil =>
          rw [SpellFields] at hfields
          subst hfields
          exact readValue_brace_nil (AreBlank.skipBlanks_append_cons hrow rfl tail)
      | cons field fields =>
          obtain ⟨key, value⟩ := field
          have hread : readFields fuel depth [] (inner ++ '\x7d' :: tail) =
              some ((key, value) :: fields, tail) :=
            readFields_of_spells ((key, value) :: fields) (by simp) hfields hrow (by omega)
              (by omega) hnodup tail
          obtain ⟨gap, own, rest, rfl, -⟩ := hfields
          obtain ⟨inside, hquote, -⟩ := readString_quote key (':' :: (gap ++ own))
          exact readValue_brace (hrow.skipBlanks_ne hquote rfl (by decide)) hread

theorem readItems_of_spells (items : List Json) (hne : items ≠ []) {pieces : List (List Char)}
    {cs : List Char} (hitems : SpellItems items pieces) (hrow : IsRow pieces cs)
    {fuel depth : Nat} (hfuel : 2 * cs.length + 1 < fuel) (hdepth : cs.length ≤ depth)
    (tail : List Char) : readItems fuel depth (cs ++ ']' :: tail) = some (items, tail) := by
  obtain ⟨fuel, rfl⟩ := Nat.exists_eq_add_one.mpr (Nat.zero_lt_of_lt hfuel)
  cases items with
  | nil => exact absurd rfl hne
  | cons item items =>
      obtain ⟨own, rest, rfl, hown, hrest⟩ := hitems
      have hread (before after : List Char) (hbefore : AreBlank before)
          (hlength : own.length ≤ cs.length) :
          readValue fuel depth (before ++ (own ++ after)) = some (item, after) := by
        rw [readValue_congr (hbefore.skipBlanks_append _)]
        exact readValue_of_spells item hown (by omega) (by omega) after
      cases items with
      | nil =>
          rw [SpellItems] at hrest
          subst hrest
          obtain ⟨before, after, hbefore, hafter, rfl⟩ := hrow
          simp only [List.length_append] at hread
          rw [List.append_assoc, List.append_assoc]
          exact readItems_last (hread before _ hbefore (by omega))
            (hafter.skipBlanks_append_cons rfl tail)
      | cons next items =>
          obtain ⟨first, others, rfl, hfirst, hothers⟩ := hrest
          obtain ⟨before, after, more, hbefore, hafter, rfl, hmore⟩ := hrow
          simp only [List.length_append, List.length_cons] at hread hfuel hdepth
          have hlast : readItems fuel depth (more ++ ']' :: tail) = some (next :: items, tail) :=
            readItems_of_spells (next :: items) (by simp) ⟨first, others, rfl, hfirst, hothers⟩
              hmore (by omega) (by omega) tail
          simp only [List.append_assoc, List.cons_append]
          exact readItems_cons (hread before _ hbefore (by omega))
            (hafter.skipBlanks_append_cons rfl _) hlast

theorem readFields_of_spells (fields : List (String × Json)) (hne : fields ≠ [])
    {pieces : List (List Char)} {cs : List Char} (hfields : SpellFields fields pieces)
    (hrow : IsRow pieces cs) {fuel depth : Nat} (hfuel : 2 * cs.length + 1 < fuel)
    (hdepth : cs.length ≤ depth) {before : List (String × Json)}
    (hnodup : ((before ++ fields).map (·.1)).Nodup) (tail : List Char) :
    readFields fuel depth before (cs ++ '\x7d' :: tail) = some (before ++ fields, tail) := by
  obtain ⟨fuel, rfl⟩ := Nat.exists_eq_add_one.mpr (Nat.zero_lt_of_lt hfuel)
  cases fields with
  | nil => exact absurd rfl hne
  | cons field fields =>
      obtain ⟨key, value⟩ := field
      obtain ⟨gap, own, rest, rfl, hgap, hown, hrest⟩ := hfields
      -- no field before has the key, so the new field stands behind them
      have hput : put key value before = before ++ [(key, value)] := by
        apply put_of_notMem
        rw [List.map_append, List.map_cons, List.nodup_append] at hnodup
        exact fun hmem => hnodup.2.2 key hmem key List.mem_cons_self rfl
      have hread (after : List Char) (hlength : own.length ≤ cs.length) :
          readValue fuel depth (gap ++ (own ++ after)) = some (value, after) := by
        rw [readValue_congr (hgap.skipBlanks_append _)]
        exact readValue_of_spells value hown (by omega) (by omega) after
      cases fields with
      | nil =>
          rw [SpellFields] at hrest
          subst hrest
          obtain ⟨blanks, after, hblanks, hafter, rfl⟩ := hrow
          simp only [List.length_append, List.length_cons] at hread
          obtain ⟨inner, hquote, hkey⟩ :=
            readString_quote key (':' :: (gap ++ (own ++ (after ++ '\x7d' :: tail))))
          simp only [List.append_assoc, List.cons_append]
          rw [← hput]
          refine readFields_last ?_ hkey (hread _ (by omega))
            (hafter.skipBlanks_append_cons rfl tail)
          rw [hquote, hblanks.skipBlanks_append_cons rfl]
      | cons next fields =>
          obtain ⟨nextKey, nextValue⟩ := next
          obtain ⟨nextGap, nextOwn, others, rfl, hnext⟩ := hrest
          obtain ⟨blanks, after, more, hblanks, hafter, rfl, hmore⟩ := hrow
          simp only [List.length_append, List.length_cons] at hread hfuel hdepth
          obtain ⟨inner, hquote, hkey⟩ :=
            readString_quote key
              (':' :: (gap ++ (own ++ (after ++ ',' :: (more ++ '\x7d' :: tail)))))
          have hlast : readFields fuel depth (before ++ [(key, value)]) (more ++ '\x7d' :: tail) =
              some (before ++ [(key, value)] ++ (nextKey, nextValue) :: fields, tail) :=
            readFields_of_spells ((nextKey, nextValue) :: fields) (by simp)
              ⟨nextGap, nextOwn, others, rfl, hnext⟩ hmore (by omega) (by omega)
              (by simpa using hnodup) tail
          simp only [List.append_assoc, List.cons_append, List.nil_append] at hlast ⊢
          rw [← hlast, ← hput]
          refine readFields_cons ?_ hkey (hread _ (by omega))
            (hafter.skipBlanks_append_cons rfl _)
          rw [hquote, hblanks.skipBlanks_append_cons rfl]

end

/-! ### The printed forms -/

mutual

/-- There are no numbers in the value, and no key stands twice in an object. -/
def IsPlain : Json → Prop
  | .num _ => False
  | .arr items => ArePlain items
  | .obj fields => (fields.map (·.1)).Nodup ∧ HavePlain fields
  | .null | .bool _ | .str _ => True

def ArePlain : List Json → Prop
  | [] => True
  | item :: items => IsPlain item ∧ ArePlain items

def HavePlain : List (String × Json) → Prop
  | [] => True
  | (_, value) :: fields => IsPlain value ∧ HavePlain fields

end

/-- Joined texts are a row of them, also if blanks stand before each of them and after the
commas. -/
theorem isRow_join {gap lead : String} (hgap : AreBlank gap.toList) (hlead : AreBlank lead.toList)
    {before after : List Char} (hbefore : AreBlank before) (hafter : AreBlank after)
    {texts : List String} (hne : texts ≠ []) :
    IsRow (texts.map String.toList)
      (before ++ ((Text.join ("," ++ gap) (texts.map (lead ++ ·))).toList ++ after)) := by
  induction texts generalizing before with
  | nil => exact absurd rfl hne
  | cons text texts ih =>
      cases texts with
      | nil =>
          refine ⟨before ++ lead.toList, after, hbefore.append hlead, hafter, ?_⟩
          simp [Text.join]
      | cons next texts =>
          refine ⟨before ++ lead.toList, [], _, hbefore.append hlead, areBlank_nil, ?_,
            ih hgap (by simp)⟩
          simp [Text.join]

/-- The lines between brackets are a row of them. -/
theorem exists_isRow_bracketed (opening closing : String) (depth : Nat) (lines : List String) :
    ∃ inner, IsRow (lines.map String.toList) inner ∧
      (bracketed opening closing depth lines).toList =
        opening.toList ++ (inner ++ closing.toList) := by
  rw [bracketed]
  cases lines with
  | nil => exact ⟨[], areBlank_nil, by simp⟩
  | cons line lines =>
      refine ⟨_, isRow_join areBlank_newline (areBlank_margin (depth + 1)) areBlank_newline
        (areBlank_newline.append (areBlank_margin depth)) (by simp), ?_⟩
      simp

theorem isRow_join_comma (texts : List String) :
    IsRow (texts.map String.toList) (Text.join "," texts).toList := by
  cases texts with
  | nil => exact areBlank_nil
  | cons text texts =>
      have hempty : AreBlank "".toList := areBlank_nil
      have hrow := isRow_join hempty hempty areBlank_nil areBlank_nil (List.cons_ne_nil text texts)
      simpa using hrow

mutual

theorem spells_compact (value : Json) (hplain : IsPlain value) :
    Spells value (compact value).toList := by
  cases value with
  | null => rfl
  | bool value => cases value <;> rfl
  | num value => exact hplain.elim
  | str s => rfl
  | arr items =>
      refine ⟨_, _, spellItems_compact items hplain, isRow_join_comma _, ?_⟩
      simp [compact]
  | obj fields =>
      refine ⟨_, _, hplain.1, spellFields_compact fields hplain.2, isRow_join_comma _, ?_⟩
      simp [compact]

theorem spellItems_compact (items : List Json) (hplain : ArePlain items) :
    SpellItems items ((compactItems items).map String.toList) := by
  cases items with
  | nil => rfl
  | cons item items =>
      exact ⟨_, _, rfl, spells_compact item hplain.1, spellItems_compact items hplain.2⟩

theorem spellFields_compact (fields : List (String × Json)) (hplain : HavePlain fields) :
    SpellFields fields ((compactFields fields).map String.toList) := by
  cases fields with
  | nil => rfl
  | cons field fields =>
      obtain ⟨key, value⟩ := field
      refine ⟨[], _, _, ?_, areBlank_nil, spells_compact value hplain.1,
        spellFields_compact fields hplain.2⟩
      simp [compactFields]

end

mutual

theorem spells_pretty (value : Json) (hplain : IsPlain value) (depth : Nat) :
    Spells value (pretty depth value).toList := by
  cases value with
  | null => rw [Spells, pretty]; rfl
  | bool value => cases value <;> (rw [Spells, pretty]; rfl)
  | num value => exact hplain.elim
  | str s => rfl
  | arr items =>
      obtain ⟨inner, hrow, htext⟩ :=
        exists_isRow_bracketed "[" "]" depth (prettyItems (depth + 1) items)
      exact ⟨_, inner, spellItems_pretty items hplain (depth + 1), hrow, htext⟩
  | obj fields =>
      obtain ⟨inner, hrow, htext⟩ :=
        exists_isRow_bracketed "\x7b" "\x7d" depth (prettyFields (depth + 1) fields)
      exact ⟨_, inner, hplain.1, spellFields_pretty fields hplain.2 (depth + 1), hrow, htext⟩

theorem spellItems_pretty (items : List Json) (hplain : ArePlain items) (depth : Nat) :
    SpellItems items ((prettyItems depth items).map String.toList) := by
  cases items with
  | nil => rfl
  | cons item items =>
      exact ⟨_, _, rfl, spells_pretty item hplain.1 depth, spellItems_pretty items hplain.2 depth⟩

theorem spellFields_pretty (fields : List (String × Json)) (hplain : HavePlain fields)
    (depth : Nat) : SpellFields fields ((prettyFields depth fields).map String.toList) := by
  cases fields with
  | nil => rfl
  | cons field fields =>
      obtain ⟨key, value⟩ := field
      refine ⟨[' '], _, _, ?_, by simp [AreBlank, isBlank], spells_pretty value hplain.1 depth,
        spellFields_pretty fields hplain.2 depth⟩
      simp [prettyFields]

end

/-- What spells a value, with blanks around it, is read as the value, if the text is not longer than
the values may be deep. -/
theorem parseWithin?_of_spells {value : Json} {s : String} {cs after : List Char}
    (hspells : Spells value cs) (hafter : AreBlank after) (hs : s.toList = cs ++ after)
    {depth : Nat} (hdepth : s.length ≤ depth) : parseWithin? depth s = some value := by
  have hlength : s.length = cs.length + after.length := by
    rw [← String.length_toList, hs, List.length_append]
  have hread : readValue (2 * s.toList.length + 2) depth s.toList = some (value, after) := by
    rw [String.length_toList, hs]
    exact readValue_of_spells value hspells (by omega) (by omega) after
  have hend : skipBlanks after = [] := by
    have hskip := hafter.skipBlanks_append []
    rwa [List.append_nil] at hskip
  rw [parseWithin?]
  simp [hread, hend]

end Signpost.Json
