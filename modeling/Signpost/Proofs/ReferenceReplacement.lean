import Signpost.Expansion
import Mathlib.Data.List.Infix
import Mathlib.Data.List.TakeWhile

/-!
# Replacing references

What a value stands for, said without the way in which it is found: from left to right, every
closed reference is replaced by its text and every other character is kept. A value is replaced in
this way if no dollar sign outside its references stands before another dollar sign or before the
name of a variable that is set. Such dollar signs are kept too where no brace follows a dollar sign
in the whole value, but otherwise they are read as well.
-/

namespace Signpost.Expansion

variable {lookup : String → Option String} {c : Char} {cs inner after text : List Char}

/-! ### References and their texts -/

/-- What stands between a name and its default. -/
def mark : List Char := [':', '-']

/-- The text in the braces gives this name and this default. The default stands behind the first
mark. Where nothing stands before that mark, there is no default and the mark is part of the
name. -/
inductive Names : List Char → List Char → Option (List Char) → Prop where
  | alone {name : List Char} : (mark <:+: name → mark <+: name) → Names name name none
  | withDefault {name value : List Char} : name ≠ [] → ¬mark <:+: name ++ [':'] →
      Names (name ++ mark ++ value) name (some value)

/-- The text that a reference stands for: the value of its variable, or its default if the variable
is not set. Braces with a mark and no name before it are kept. -/
inductive StandsFor (lookup : String → Option String) : List Char → List Char → Prop where
  | value {inner name : List Char} {default : Option (List Char)} {value : String} :
      Names inner name default → lookup (String.ofList name) = some value →
        StandsFor lookup inner value.toList
  | default {inner name value : List Char} :
      Names inner name (some value) → lookup (String.ofList name) = none →
        StandsFor lookup inner value
  | nameless {inner : List Char} :
      mark <+: inner → lookup (String.ofList inner) = none →
        StandsFor lookup inner ('$' :: '\x7b' :: inner ++ ['\x7d'])

/-- A closed reference stands at the beginning. -/
def beginsReference : List Char → Bool
  | '$' :: '\x7b' :: rest => '\x7d' ∈ rest
  | _ => false

/-- The second text is the first one with its closed references replaced, and nothing else. -/
inductive Replaces (lookup : String → Option String) : List Char → List Char → Prop where
  | nil : Replaces lookup [] []
  | reference {inner after value text : List Char} : '\x7d' ∉ inner → StandsFor lookup inner value →
      Replaces lookup after text →
        Replaces lookup ('$' :: '\x7b' :: inner ++ '\x7d' :: after) (value ++ text)
  | char {c : Char} {cs text : List Char} : beginsReference (c :: cs) = false →
      Replaces lookup cs text → Replaces lookup (c :: cs) (c :: text)

theorem cutDefault_mark_append (cs : List Char) : cutDefault (mark ++ cs) = some ([], cs) := rfl

theorem cutDefault_cons_of_not_mark (hmark : ¬mark <+: c :: cs) :
    cutDefault (c :: cs) = (cutDefault cs).map fun (name, value) => (c :: name, value) := by
  rw [cutDefault]
  rintro rest rfl rfl
  exact hmark (List.prefix_append mark rest)

theorem cutDefault_eq_none_iff : cutDefault cs = none ↔ ¬mark <:+: cs := by
  induction cs with
  | nil => simp [cutDefault, mark]
  | cons c cs ih =>
      by_cases hmark : mark <+: c :: cs
      · obtain ⟨rest, hrest⟩ := hmark
        rw [← hrest, cutDefault_mark_append]
        simp [(List.prefix_append mark rest).isInfix]
      · rw [cutDefault_cons_of_not_mark hmark, Option.map_eq_none_iff, ih, List.infix_cons_iff]
        simp [hmark]

/-- The beginning of a text up to the colon of a mark in it. -/
theorem prefix_of_mark (c : Char) (name value : List Char) :
    c :: name ++ [':'] <+: c :: (name ++ mark ++ value) :=
  ⟨'-' :: value, by simp [mark]⟩

theorem cutDefault_append {name : List Char} (hfirst : ¬mark <:+: name ++ [':'])
    (value : List Char) : cutDefault (name ++ mark ++ value) = some (name, value) := by
  induction name with
  | nil => rfl
  | cons c name ih =>
      rw [List.cons_append, List.infix_cons_iff, not_or] at hfirst
      have hmark : ¬mark <+: c :: (name ++ mark ++ value) := fun hbegins =>
        hfirst.1 (List.prefix_of_prefix_length_le hbegins (prefix_of_mark c name value)
          (by simp [mark]))
      rw [List.cons_append, List.cons_append, cutDefault_cons_of_not_mark hmark, ih hfirst.2]
      rfl

theorem eq_of_cutDefault_eq_some {name value : List Char}
    (hcut : cutDefault cs = some (name, value)) :
    cs = name ++ mark ++ value ∧ ¬mark <:+: name ++ [':'] := by
  induction cs generalizing name with
  | nil => cases hcut
  | cons c cs ih =>
      by_cases hmark : mark <+: c :: cs
      · obtain ⟨rest, hrest⟩ := hmark
        rw [← hrest, cutDefault_mark_append] at hcut
        cases hcut
        exact ⟨hrest.symm, by decide⟩
      · rw [cutDefault_cons_of_not_mark hmark] at hcut
        obtain ⟨⟨name, value⟩, hrest, heq⟩ := Option.map_eq_some_iff.mp hcut
        cases heq
        obtain ⟨rfl, hfirst⟩ := ih hrest
        refine ⟨rfl, ?_⟩
        rw [List.cons_append, List.infix_cons_iff, not_or]
        exact ⟨fun hbegins => hmark (hbegins.trans (prefix_of_mark c name value)), hfirst⟩

theorem names_iff {name : List Char} {default : Option (List Char)} :
    Names inner name default ↔ nameAndDefault inner = (name, default) := by
  constructor
  · rintro (hmark | ⟨hne, hfirst⟩)
    · cases hcut : cutDefault inner with
      | none => rw [nameAndDefault, hcut]
      | some parts =>
          obtain ⟨rest, hrest⟩ : mark <+: inner := by
            apply hmark
            by_contra hnone
            rw [cutDefault_eq_none_iff.mpr hnone] at hcut
            cases hcut
          rw [nameAndDefault, ← hrest, cutDefault_mark_append]
    · rw [nameAndDefault, cutDefault_append hfirst]
      cases name with
      | nil => contradiction
      | cons c name => rfl
  · intro hname
    rw [nameAndDefault] at hname
    split at hname
    · rename_i value hcut
      cases hname
      obtain ⟨rfl, -⟩ := eq_of_cutDefault_eq_some hcut
      exact .alone fun _ => List.prefix_append mark value
    · rename_i hcut
      cases hname
      exact .alone fun hmark => absurd hmark (cutDefault_eq_none_iff.mp hcut)
    · rename_i before value hne hcut
      cases hname
      obtain ⟨rfl, hfirst⟩ := eq_of_cutDefault_eq_some hcut
      refine .withDefault ?_ hfirst
      rintro rfl
      exact hne rfl

/-- The variable of the reference is not set, and it has no default. -/
def IsUnset (lookup : String → Option String) (inner : List Char) : Prop :=
  cutDefault inner = none ∧ lookup (String.ofList inner) = none

theorem not_isUnset_of_names {name : List Char} {default : Option (List Char)}
    (hnames : Names inner name default)
    (hset : (lookup (String.ofList name)).isSome = true ∨ default.isSome = true) :
    ¬IsUnset lookup inner := by
  rintro ⟨hcut, hnone⟩
  have hname := names_iff.mp hnames
  rw [nameAndDefault, hcut, Prod.mk.injEq] at hname
  obtain ⟨rfl, rfl⟩ := hname
  simp [hnone] at hset

/-- A reference stands for one text, or for none if its variable is not set and it has no default. -/
theorem standsFor_iff :
    StandsFor lookup inner text ↔ ¬IsUnset lookup inner ∧ text = valueOf lookup inner := by
  constructor
  · rintro (⟨hnames, hset⟩ | ⟨hnames, hset⟩ | ⟨hmark, hset⟩)
    · refine ⟨not_isUnset_of_names hnames (.inl (by rw [hset]; rfl)), ?_⟩
      simp [valueOf, names_iff.mp hnames, hset]
    · refine ⟨not_isUnset_of_names hnames (.inr rfl), ?_⟩
      simp [valueOf, names_iff.mp hnames, hset]
    · refine ⟨fun hunset => cutDefault_eq_none_iff.mp hunset.1 hmark.isInfix, ?_⟩
      simp [valueOf, names_iff.mp (.alone fun _ => hmark), hset]
  · rintro ⟨hset, rfl⟩
    obtain ⟨⟨name, default⟩, hname⟩ : ∃ pair, nameAndDefault inner = pair := ⟨_, rfl⟩
    have hnames := names_iff.mpr hname
    cases hlookup : lookup (String.ofList name) with
    | some value =>
        have hvalue : valueOf lookup inner = value.toList := by simp [valueOf, hname, hlookup]
        exact hvalue ▸ .value hnames hlookup
    | none =>
        cases hnames with
        | @withDefault name value hne hfirst =>
            have hvalue : valueOf lookup (name ++ mark ++ value) = value := by
              simp only [valueOf, hname, hlookup]
            exact hvalue.symm ▸ .default (.withDefault hne hfirst) hlookup
        | alone hmark =>
            have hvalue : valueOf lookup inner = '$' :: '\x7b' :: inner ++ ['\x7d'] := by
              simp [valueOf, hname, hlookup]
            rw [hvalue]
            refine .nameless (hmark ?_) hlookup
            by_contra hnone
            exact hset ⟨cutDefault_eq_none_iff.mpr hnone, hlookup⟩

/-! ### The scan from left to right -/

theorem closeBrace_eq_none_iff : closeBrace cs = none ↔ '\x7d' ∉ cs := by
  induction cs with
  | nil => simp [closeBrace]
  | cons c cs ih =>
      by_cases hc : c = '\x7d'
      · simp [closeBrace, hc]
      · simp [closeBrace, hc, ih, Ne.symm hc]

theorem closeBrace_append (hinner : '\x7d' ∉ inner) (after : List Char) :
    closeBrace (inner ++ '\x7d' :: after) = some (inner, after) := by
  induction inner with
  | nil => simp [closeBrace]
  | cons c inner ih =>
      obtain ⟨hc, hrest⟩ := not_or.mp (List.mem_cons.not.mp hinner)
      rw [List.cons_append, closeBrace, if_neg (Ne.symm hc), ih hrest]
      rfl

theorem exists_reference_of_begins (hbegins : beginsReference cs = true) :
    ∃ inner after, '\x7d' ∉ inner ∧ cs = '$' :: '\x7b' :: inner ++ '\x7d' :: after := by
  unfold beginsReference at hbegins
  split at hbegins
  · obtain ⟨inner, after, rfl, hinner⟩ := List.eq_append_cons_of_mem (of_decide_eq_true hbegins)
    exact ⟨inner, after, hinner, rfl⟩
  · cases hbegins

/-- A text is empty, or it begins with a closed reference, or with another character. -/
@[elab_as_elim]
theorem scanInduction {motive : List Char → Prop} (nil : motive [])
    (reference : ∀ inner after, '\x7d' ∉ inner → motive after →
      motive ('$' :: '\x7b' :: inner ++ '\x7d' :: after))
    (char : ∀ c cs, beginsReference (c :: cs) = false → motive cs → motive (c :: cs)) :
    ∀ cs, motive cs := by
  intro cs
  induction hlength : cs.length using Nat.strong_induction_on generalizing cs with
  | _ n ih =>
      cases hbegins : beginsReference cs with
      | true =>
          obtain ⟨inner, after, hinner, rfl⟩ := exists_reference_of_begins hbegins
          have hshorter : after.length < n := by
            rw [← hlength]
            simp
            omega
          exact reference inner after hinner (ih after.length hshorter after rfl)
      | false =>
          cases cs with
          | nil => exact nil
          | cons c cs => exact char c cs hbegins (ih cs.length (by simp [← hlength]) cs rfl)

/-! ### What is replaced -/

theorem beginsReference_append (inner after : List Char) :
    beginsReference ('$' :: '\x7b' :: inner ++ '\x7d' :: after) = true := by
  simp [beginsReference]

theorem replaceChars_reference (hinner : '\x7d' ∉ inner) (after : List Char) :
    replaceChars lookup ('$' :: '\x7b' :: inner ++ '\x7d' :: after) =
      valueOf lookup inner ++ replaceChars lookup after := by
  rw [List.cons_append, List.cons_append, replaceChars]
  split
  · rename_i hclose
    rw [closeBrace_append hinner] at hclose
    cases hclose
    rfl
  · rename_i hclose
    rw [closeBrace_append hinner] at hclose
    cases hclose

theorem replaceChars_cons_of_ne (hc : c ≠ '$') (cs : List Char) :
    replaceChars lookup (c :: cs) = c :: replaceChars lookup cs := by
  rw [replaceChars]
  · exact fun _ hdollar => absurd hdollar hc
  · exact fun _ hdollar => absurd hdollar hc
  · exact hc

/-- Behind a dollar sign, these characters are another one or the name of a variable that is set. -/
def isRead (lookup : String → Option String) (cs : List Char) : Bool :=
  cs.head? = some '$' ||
    (!(cs.takeWhile isNameChar).isEmpty &&
      (lookup (String.ofList (cs.takeWhile isNameChar))).isSome)

theorem replaceChars_name_append {name : List Char} (hname : ∀ c ∈ name, c ≠ '$')
    (after : List Char) :
    replaceChars lookup (name ++ after) = name ++ replaceChars lookup after := by
  induction name with
  | nil => rfl
  | cons c name ih =>
      obtain ⟨hc, hrest⟩ := List.forall_mem_cons.mp hname
      rw [List.cons_append, replaceChars_cons_of_ne hc, ih hrest, List.cons_append]

theorem replaceChars_open (hclosed : '\x7d' ∉ cs) :
    replaceChars lookup ('$' :: '\x7b' :: cs) = '$' :: '\x7b' :: replaceChars lookup cs := by
  rw [replaceChars]
  split
  · rename_i hclose
    rw [closeBrace_eq_none_iff.mpr hclosed] at hclose
    cases hclose
  · rfl

theorem isNameChar_dollar : isNameChar '$' = false := by decide

/-- A dollar sign that opens no reference and is not read otherwise is kept. -/
theorem replaceChars_dollar (hbegins : beginsReference ('$' :: cs) = false)
    (hread : isRead lookup cs = false) :
    replaceChars lookup ('$' :: cs) = '$' :: replaceChars lookup cs := by
  obtain ⟨hhead, hname⟩ := Bool.or_eq_false_iff.mp hread
  by_cases hbrace : ∃ rest, cs = '\x7b' :: rest
  · obtain ⟨rest, rfl⟩ := hbrace
    have hclosed : '\x7d' ∉ rest := of_decide_eq_false hbegins
    rw [replaceChars_open hclosed, replaceChars_cons_of_ne (by decide)]
  · rw [replaceChars]
    · split
      · rfl
      · rename_i hne
        -- the name stands in the text that is kept behind the dollar sign
        have hunset : lookup (String.ofList (cs.takeWhile isNameChar)) = none := by
          simpa [hne] using hname
        have hchars : ∀ c ∈ cs.takeWhile isNameChar, c ≠ '$' := by
          rintro c hc rfl
          exact absurd (List.mem_takeWhile_imp hc) (by simp [isNameChar_dollar])
        have hsplit : replaceChars lookup (cs.takeWhile isNameChar ++ cs.dropWhile isNameChar) =
            cs.takeWhile isNameChar ++ replaceChars lookup (cs.dropWhile isNameChar) :=
          replaceChars_name_append hchars _
        rw [List.takeWhile_append_dropWhile] at hsplit
        rw [bareValueOf, hunset, hsplit]
        rfl
    · exact fun rest hrest => hbrace ⟨rest, hrest⟩
    · rintro rest rfl
      simp at hhead

theorem replaceChars_cons (hbegins : beginsReference (c :: cs) = false)
    (hread : c = '$' → isRead lookup cs = false) :
    replaceChars lookup (c :: cs) = c :: replaceChars lookup cs := by
  by_cases hc : c = '$'
  · subst hc
    exact replaceChars_dollar hbegins (hread rfl)
  · exact replaceChars_cons_of_ne hc cs

/-! ### Which references are found -/

theorem referencesFrom_open (before : List Char) (hinner : '\x7d' ∉ inner) (after : List Char) :
    referencesFrom (some before) (inner ++ '\x7d' :: after) =
      (before.reverse ++ inner) :: referencesFrom none after := by
  induction inner generalizing before with
  | nil => simp [referencesFrom]
  | cons c inner ih =>
      obtain ⟨hc, hrest⟩ := not_or.mp (List.mem_cons.not.mp hinner)
      rw [List.cons_append, referencesFrom]
      simp only [if_neg (Ne.symm hc)]
      rw [ih (c :: before) hrest, List.reverse_cons, List.append_assoc, List.singleton_append]

theorem referencesFrom_reference (hinner : '\x7d' ∉ inner) (after : List Char) :
    referencesFrom none ('$' :: '\x7b' :: inner ++ '\x7d' :: after) =
      inner :: referencesFrom none after := by
  rw [List.cons_append, List.cons_append]
  exact referencesFrom_open [] hinner after

theorem referencesFrom_of_notMem (before : Option (List Char)) (hclosed : '\x7d' ∉ cs) :
    referencesFrom before cs = [] := by
  fun_induction referencesFrom before cs with
  | case1 => rfl
  | case2 cs inner => simp at hclosed
  | case3 c cs inner hc ih => exact ih (List.not_mem_of_not_mem_cons hclosed)
  | case4 cs ih => exact ih (List.not_mem_of_not_mem_cons (List.not_mem_of_not_mem_cons hclosed))
  | case5 c cs hopen ih => exact ih (List.not_mem_of_not_mem_cons hclosed)

theorem referencesFrom_cons (hbegins : beginsReference (c :: cs) = false) :
    referencesFrom none (c :: cs) = referencesFrom none cs := by
  by_cases hopen : c = '$' ∧ ∃ rest, cs = '\x7b' :: rest
  · obtain ⟨rfl, rest, rfl⟩ := hopen
    have hclosed : '\x7d' ∉ rest := of_decide_eq_false hbegins
    have hclosed' : '\x7d' ∉ '\x7b' :: rest := by simp [hclosed]
    rw [referencesFrom_of_notMem none hclosed', referencesFrom_of_notMem none]
    simp [hclosed]
  · rw [referencesFrom]
    rintro rest rfl rfl
    exact hopen ⟨rfl, rest, rfl⟩

/-! ### Dollar signs outside of references -/

/-- A dollar sign outside the closed references stands before another one or before the name of a
variable that is set. `inside` tells whether the text begins in the braces of a reference. -/
def hasBareReference (lookup : String → Option String) (inside : Bool) : List Char → Bool
  | [] => false
  | c :: cs =>
    if inside then hasBareReference lookup (c ≠ '\x7d') cs
    else if beginsReference (c :: cs) then hasBareReference lookup true cs
    else (c = '$' && isRead lookup cs) || hasBareReference lookup false cs

theorem hasBareReference_inside (hinner : '\x7d' ∉ inner) (after : List Char) :
    hasBareReference lookup true (inner ++ '\x7d' :: after) =
      hasBareReference lookup false after := by
  induction inner with
  | nil => simp [hasBareReference]
  | cons c inner ih =>
      obtain ⟨hc, hrest⟩ := not_or.mp (List.mem_cons.not.mp hinner)
      have hstay : decide (c ≠ '\x7d') = true := decide_eq_true (Ne.symm hc)
      rw [List.cons_append, hasBareReference, if_pos rfl, hstay, ih hrest]

theorem hasBareReference_reference (hinner : '\x7d' ∉ inner) (after : List Char) :
    hasBareReference lookup false ('$' :: '\x7b' :: inner ++ '\x7d' :: after) =
      hasBareReference lookup false after := by
  have hbegins := beginsReference_append inner after
  have hbrace : '\x7d' ∉ '\x7b' :: inner := by simp [hinner]
  have hinside : hasBareReference lookup true ('\x7b' :: inner ++ '\x7d' :: after) =
      hasBareReference lookup false after := hasBareReference_inside hbrace after
  rw [List.cons_append] at hbegins ⊢
  rw [hasBareReference, if_neg Bool.false_ne_true, if_pos hbegins, hinside]

theorem replaces_reference_iff (hinner : '\x7d' ∉ inner) :
    Replaces lookup ('$' :: '\x7b' :: inner ++ '\x7d' :: after) text ↔
      ∃ value rest, StandsFor lookup inner value ∧ Replaces lookup after rest ∧
        text = value ++ rest := by
  constructor
  · intro hreplaces
    generalize hcs : '$' :: '\x7b' :: inner ++ '\x7d' :: after = cs at hreplaces
    cases hreplaces with
    | nil => cases hcs
    | @reference inner' after' value rest hinner' hvalue hrest =>
        -- both references end at the first closing brace
        have hclose := congrArg (fun cs => closeBrace (cs.drop 2)) hcs
        simp only [List.cons_append, List.drop_succ_cons, List.drop_zero, closeBrace_append hinner,
          closeBrace_append hinner', Option.some.injEq, Prod.mk.injEq] at hclose
        obtain ⟨rfl, rfl⟩ := hclose
        exact ⟨value, rest, hvalue, hrest, rfl⟩
    | char hbegins _ =>
        rw [← hcs, beginsReference_append] at hbegins
        cases hbegins
  · rintro ⟨value, rest, hvalue, hrest, rfl⟩
    exact .reference hinner hvalue hrest

theorem replaces_cons_iff (hbegins : beginsReference (c :: cs) = false) :
    Replaces lookup (c :: cs) text ↔ ∃ rest, Replaces lookup cs rest ∧ text = c :: rest := by
  constructor
  · intro hreplaces
    generalize hall : c :: cs = all at hreplaces
    cases hreplaces with
    | nil => cases hall
    | @reference inner after _ _ _ _ _ =>
        rw [hall, beginsReference_append] at hbegins
        cases hbegins
    | @char _ _ rest _ hrest =>
        cases hall
        exact ⟨rest, hrest, rfl⟩
  · rintro ⟨rest, hrest, rfl⟩
    exact .char hbegins hrest

/-- Where no dollar sign outside the references is read, the expander replaces the references, each
of which has a value or a default, and keeps everything else. -/
theorem replaces_iff (hbare : hasBareReference lookup false cs = false) :
    Replaces lookup cs text ↔
      (∀ inner ∈ referencesFrom none cs, ¬IsUnset lookup inner) ∧
        text = replaceChars lookup cs := by
  induction cs using scanInduction generalizing text with
  | nil =>
      constructor
      · rintro ⟨⟩
        exact ⟨by simp [referencesFrom], by rw [replaceChars]⟩
      · rintro ⟨-, rfl⟩
        rw [replaceChars]
        exact .nil
  | reference inner after hinner ih =>
      rw [hasBareReference_reference hinner] at hbare
      rw [replaces_reference_iff hinner, referencesFrom_reference hinner, List.forall_mem_cons,
        replaceChars_reference hinner]
      constructor
      · rintro ⟨value, rest, hvalue, hrest, rfl⟩
        obtain ⟨hset, rfl⟩ := standsFor_iff.mp hvalue
        obtain ⟨hsets, rfl⟩ := (ih hbare).mp hrest
        exact ⟨⟨hset, hsets⟩, rfl⟩
      · rintro ⟨⟨hset, hsets⟩, rfl⟩
        exact ⟨_, _, standsFor_iff.mpr ⟨hset, rfl⟩, (ih hbare).mpr ⟨hsets, rfl⟩, rfl⟩
  | char c cs hbegins ih =>
      rw [hasBareReference, if_neg Bool.false_ne_true, if_neg (by simp [hbegins]),
        Bool.or_eq_false_iff] at hbare
      obtain ⟨hfirst, hbare⟩ := hbare
      have hread : c = '$' → isRead lookup cs = false := by
        intro hc
        simpa [hc] using hfirst
      rw [replaces_cons_iff hbegins, referencesFrom_cons hbegins, replaceChars_cons hbegins hread]
      constructor
      · rintro ⟨rest, hrest, rfl⟩
        obtain ⟨hsets, rfl⟩ := (ih hbare).mp hrest
        exact ⟨hsets, rfl⟩
      · rintro ⟨hsets, rfl⟩
        exact ⟨_, (ih hbare).mpr ⟨hsets, rfl⟩, rfl⟩

/-- A text without an opening dollar sign and brace is kept. -/
theorem replaces_iff_of_not_opensBrace (hopen : opensBrace cs = false) :
    Replaces lookup cs text ↔ text = cs := by
  induction cs using scanInduction generalizing text with
  | nil =>
      constructor
      · rintro ⟨⟩
        rfl
      · rintro rfl
        exact .nil
  | reference inner after hinner ih => simp [opensBrace] at hopen
  | char c cs hbegins ih =>
      have hrest : opensBrace cs = false := by
        unfold opensBrace at hopen
        split at hopen
        · cases hopen
        · rename_i heq
          cases heq
          exact hopen
        · rename_i heq
          cases heq
      rw [replaces_cons_iff hbegins]
      constructor
      · rintro ⟨rest, hreplaces, rfl⟩
        rw [(ih hrest).mp hreplaces]
      · rintro rfl
        exact ⟨cs, (ih hrest).mpr rfl, rfl⟩

/-- **Only the references in braces are replaced.** What an expansion gives is the one text in which
every closed reference is replaced by its value or its default and every other character is kept.
If the value has an opening dollar sign and brace, no dollar sign outside its closed references may
stand before another one or before the name of a variable that is set. -/
theorem replaces_of_expand {value expanded : String}
    (hbare : opensBrace value.toList = true → hasBareReference lookup false value.toList = false)
    (hexpand : expand lookup value = .ok expanded) (text : List Char) :
    Replaces lookup value.toList text ↔ text = expanded.toList := by
  unfold expand at hexpand
  split at hexpand
  · rename_i hopen
    cases hexpand
    exact replaces_iff_of_not_opensBrace (by simpa using hopen)
  · rename_i hopen
    dsimp only at hexpand
    split at hexpand
    · cases hexpand
    · split at hexpand
      · cases hexpand
      · rename_i hunset
        cases hexpand
        have hset : ∀ inner ∈ referencesFrom none value.toList, ¬IsUnset lookup inner := by
          intro inner hinner
          simpa [IsUnset] using List.find?_eq_none.mp hunset inner hinner
        rw [replaces_iff (hbare (by simpa using hopen)), and_iff_right hset, String.toList_ofList]

/-- A name that is not set, two references of which one is not set, a lone dollar sign and an open
reference. -/
theorem replaces_of_expand_sample :
    let lookup : String → Option String := fun name => if name = "A" then some "x" else none
    let value := "$path/$\x7bA\x7d/$\x7bB:-c\x7d $ $\x7bA"
    hasBareReference lookup false value.toList = false ∧
      expand lookup value = .ok "$path/x/c $ $\x7bA" ∧
      Replaces lookup value.toList "$path/x/c $ $\x7bA".toList := by
  intro lookup value
  have hbare : hasBareReference lookup false value.toList = false := by decide +kernel
  have hexpand : expand lookup value = .ok "$path/x/c $ $\x7bA" := by decide +kernel
  exact ⟨hbare, hexpand, (replaces_of_expand (fun _ => hbare) hexpand _).mpr rfl⟩

/-- Without a reference beside it, the name of a set variable and a doubled dollar sign are kept;
beside one, the name is replaced and the two dollar signs become one. -/
theorem expand_reads_bare_name :
    let lookup : String → Option String := fun name => if name = "A" then some "x" else none
    expand lookup "$A/$$/" = .ok "$A/$$/" ∧
      Replaces lookup "$A/$$/$\x7bB:-c\x7d".toList "$A/$$/c".toList ∧
      expand lookup "$A/$$/$\x7bB:-c\x7d" = .ok "x/$/c" ∧
      ¬Replaces lookup "$A/$$/$\x7bB:-c\x7d".toList "x/$/c".toList := by
  intro lookup
  have hvalue : "$A/$$/$\x7bB:-c\x7d".toList =
      ['$', 'A', '/', '$', '$', '/', '$', '\x7b', 'B', ':', '-', 'c', '\x7d'] := by decide +kernel
  have hkept : "$A/$$/c".toList = ['$', 'A', '/', '$', '$', '/', 'c'] := by decide +kernel
  have hread : "x/$/c".toList = ['x', '/', '$', '/', 'c'] := by decide +kernel
  have hnames : Names ['B', ':', '-', 'c'] ['B'] (some ['c']) := names_iff.mpr (by decide)
  have hdefault : Replaces lookup ['$', '\x7b', 'B', ':', '-', 'c', '\x7d'] ['c'] :=
    .reference (by decide) (.default hnames (by decide +kernel)) .nil
  rw [hvalue, hkept, hread]
  refine ⟨by decide +kernel, ?_, by decide +kernel, ?_⟩
  · exact .char rfl (.char rfl (.char rfl (.char rfl (.char rfl (.char rfl hdefault)))))
  · intro hreplaces
    cases hreplaces

end Signpost.Expansion
