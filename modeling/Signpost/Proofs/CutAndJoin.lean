import Signpost.Text.Cut

/-!
# Cutting what was joined

Cutting at a character and joining with it are the ones of the library, on texts in place of lists.
So pieces in which the separator does not stand are, joined and cut, the same pieces again. No
pieces at all are the one exception, as cutting always gives a piece.
-/

namespace Signpost.Text

theorem cutChars_eq_splitOn (sep : Char) (cs : List Char) : cutChars sep cs = cs.splitOn sep := by
  induction cs with
  | nil => rfl
  | cons c cs ih =>
      have hcons : (c :: cs).splitOn sep =
          if c = sep then [] :: cs.splitOn sep else (cs.splitOn sep).modifyHead (List.cons c) := by
        simp [List.splitOn_eq_splitOnP, List.splitOnP_cons_eq_if_modifyHead]
      rw [cutChars, hcons, ih]
      split
      · rfl
      · split
        · rename_i hnil
          exact absurd hnil (List.splitOn_ne_nil sep cs)
        · rename_i piece pieces hpieces
          rw [hpieces, List.modifyHead_cons]

theorem cut_eq_splitOn (sep : Char) (s : String) :
    cut sep s = (s.toList.splitOn sep).map String.ofList := by
  rw [cut, cutChars_eq_splitOn]

theorem join_eq_intercalate (sep : String) (pieces : List String) :
    join sep pieces = sep.intercalate pieces := by
  induction pieces with
  | nil => rw [join, String.intercalate_nil]
  | cons piece pieces ih =>
      cases pieces with
      | nil => rw [join, String.intercalate_singleton]
      | cons next pieces => rw [join, ih, String.intercalate_cons_cons]

theorem toList_join (sep : Char) (pieces : List String) :
    (join (String.singleton sep) pieces).toList = [sep].intercalate (pieces.map String.toList) := by
  rw [join_eq_intercalate, String.toList_intercalate, String.toList_singleton]

theorem cut_join {sep : Char} {pieces : List String} (hne : pieces ≠ [])
    (hfree : ∀ piece ∈ pieces, sep ∉ piece.toList) :
    cut sep (join (String.singleton sep) pieces) = pieces := by
  have hlists : ∀ cs ∈ pieces.map String.toList, sep ∉ cs := by
    intro cs hcs
    obtain ⟨piece, hpiece, rfl⟩ := List.mem_map.mp hcs
    exact hfree piece hpiece
  have hsplit := List.splitOn_intercalate sep hlists (by simpa using hne)
  rw [cut_eq_splitOn, toList_join, hsplit]
  simp [Function.comp_def]

theorem join_cons_of_ne_nil (sep first : String) {pieces : List String} (hne : pieces ≠ []) :
    join sep (first :: pieces) = first ++ sep ++ join sep pieces := by
  rw [join_eq_intercalate, join_eq_intercalate, String.intercalate_cons_of_ne_nil hne]

theorem join_concat_of_ne_nil (sep last : String) {pieces : List String} (hne : pieces ≠ []) :
    join sep (pieces ++ [last]) = join sep pieces ++ sep ++ last := by
  rw [join_eq_intercalate, join_eq_intercalate,
    String.intercalate_append_of_ne_nil hne (List.cons_ne_nil last []),
    String.intercalate_singleton]

/-- A character of joined pieces is one of a piece or of the separator. -/
theorem mem_join {c : Char} {sep : String} {pieces : List String}
    (hmem : c ∈ (join sep pieces).toList) :
    c ∈ sep.toList ∨ ∃ piece ∈ pieces, c ∈ piece.toList := by
  induction pieces with
  | nil => simp [join] at hmem
  | cons piece pieces ih =>
      by_cases hne : pieces = []
      · subst hne
        exact .inr ⟨piece, List.mem_cons_self, hmem⟩
      · rw [join_cons_of_ne_nil sep piece hne, String.toList_append, String.toList_append,
          List.mem_append, List.mem_append] at hmem
        rcases hmem with (hpiece | hsep) | hrest
        · exact .inr ⟨piece, List.mem_cons_self, hpiece⟩
        · exact .inl hsep
        · rcases ih hrest with hsep | ⟨other, hother, hc⟩
          · exact .inl hsep
          · exact .inr ⟨other, List.mem_cons_of_mem piece hother, hc⟩

/-- The separator stands in no piece. -/
theorem notMem_of_mem_cutChars {sep : Char} {cs piece : List Char}
    (hpiece : piece ∈ cutChars sep cs) : sep ∉ piece := by
  induction cs generalizing piece with
  | nil => simp [List.mem_singleton.mp hpiece]
  | cons c cs ih =>
      unfold cutChars at hpiece
      split at hpiece
      · rcases List.mem_cons.mp hpiece with rfl | hrest
        · simp
        · exact ih hrest
      · rename_i hc
        split at hpiece
        · rename_i hnil
          exact absurd hnil (cutChars_ne_nil sep cs)
        · rename_i first rest hcs
          rcases List.mem_cons.mp hpiece with rfl | hrest
          · have hfirst := ih (hcs ▸ List.mem_cons_self)
            simp [Ne.symm hc, hfirst]
          · exact ih (hcs ▸ List.mem_cons_of_mem first hrest)

theorem notMem_of_mem_cut {sep : Char} {s piece : String} (hpiece : piece ∈ cut sep s) :
    sep ∉ piece.toList := by
  obtain ⟨cs, hcs, rfl⟩ := List.mem_map.mp hpiece
  rw [String.toList_ofList]
  exact notMem_of_mem_cutChars hcs

theorem join_cut (sep : Char) (s : String) : join (String.singleton sep) (cut sep s) = s := by
  have hlists : (cut sep s).map String.toList = s.toList.splitOn sep := by
    rw [cut_eq_splitOn, List.map_map]
    simp [Function.comp_def]
  rw [← String.toList_inj, toList_join, hlists, List.intercalate_splitOn]

theorem cut_of_notMem {sep : Char} {s : String} (hfree : sep ∉ s.toList) : cut sep s = [s] := by
  rw [cut_eq_splitOn, List.splitOn_eq_singleton hfree, List.map_singleton, String.ofList_toList]

theorem join_append_tail (sep : String) (pieces : List String) (last tail : String) :
    join sep (pieces ++ [last ++ tail]) = join sep (pieces ++ [last]) ++ tail := by
  induction pieces with
  | nil => rfl
  | cons piece pieces ih =>
      rw [List.cons_append, List.cons_append, join_cons_of_ne_nil sep piece (by simp),
        join_cons_of_ne_nil sep piece (by simp), ih]
      simp only [String.append_assoc]

theorem cutLast_eq_some_iff {sep : Char} {s before after : String} :
    cutLast sep s = some (before, after) ↔
      s = before ++ String.singleton sep ++ after ∧ sep ∉ after.toList := by
  have htext : s = before ++ String.singleton sep ++ after ↔
      s.toList = before.toList ++ sep :: after.toList := by
    rw [← String.toList_inj]
    simp [String.toList_append]
  rw [htext, ← cutLastChars_eq_some_iff, cutLast, Option.map_eq_some_iff]
  constructor
  · rintro ⟨⟨front, back⟩, hcut, heq⟩
    cases heq
    simpa using hcut
  · intro hcut
    exact ⟨_, hcut, by simp⟩

/-- The last cut of joined pieces is before the last piece. -/
theorem cutLast_join {sep : Char} {last : String} (hlast : sep ∉ last.toList)
    (pieces : List String) :
    cutLast sep (join (String.singleton sep) (pieces ++ [last])) =
      if pieces = [] then none else some (join (String.singleton sep) pieces, last) := by
  split
  · rename_i hpieces
    rw [hpieces, List.nil_append, join, cutLast, cutLastChars_eq_none_iff.mpr hlast,
      Option.map_none]
  · rename_i hpieces
    rw [cutLast_eq_some_iff, join_concat_of_ne_nil _ last hpieces]
    exact ⟨rfl, hlast⟩

theorem dropTail_eq_some_iff {tail s front : String} :
    dropTail tail s = some front ↔ s = front ++ tail := by
  rw [dropTail, Option.map_eq_some_iff]
  constructor
  · rintro ⟨cs, hcs, rfl⟩
    have hlists := congrArg List.reverse (dropLead_eq_some_iff.mp hcs)
    rw [List.reverse_reverse, List.reverse_append, List.reverse_reverse] at hlists
    rw [← String.toList_inj, String.toList_append, String.toList_ofList, hlists]
  · rintro rfl
    refine ⟨front.toList.reverse, dropLead_eq_some_iff.mpr ?_, ?_⟩
    · rw [String.toList_append, List.reverse_append]
    · rw [List.reverse_reverse, String.ofList_toList]

theorem endsWith_iff {s tail : String} : endsWith s tail = true ↔ ∃ front, s = front ++ tail := by
  rw [endsWith, Option.isSome_iff_exists]
  simp only [dropTail_eq_some_iff]

theorem beginsWith_iff {s lead : String} :
    beginsWith s lead = true ↔ ∃ rest, s.toList = lead.toList ++ rest := by
  rw [beginsWith, Option.isSome_iff_exists]
  simp only [dropLead_eq_some_iff]

theorem beginsWith_iff_isPrefix {s lead : String} :
    beginsWith s lead = true ↔ lead.toList <+: s.toList := by
  rw [beginsWith_iff]
  exact exists_congr fun rest => eq_comm

theorem endsWith_iff_isSuffix {s tail : String} :
    endsWith s tail = true ↔ tail.toList <:+ s.toList := by
  rw [endsWith_iff]
  constructor
  · rintro ⟨front, rfl⟩
    exact ⟨front.toList, String.toList_append.symm⟩
  · rintro ⟨front, hfront⟩
    refine ⟨String.ofList front, ?_⟩
    rw [← String.toList_inj, String.toList_append, String.toList_ofList, hfront]

theorem cutChars_append {sep : Char} (cs : List Char) {tail : List Char} (htail : sep ∉ tail) :
    ∃ front last, cutChars sep cs = front ++ [last] ∧
      cutChars sep (cs ++ tail) = front ++ [last ++ tail] := by
  induction cs with
  | nil =>
      refine ⟨[], [], rfl, ?_⟩
      rw [List.nil_append, cutChars_eq_splitOn, List.splitOn_eq_singleton htail, List.nil_append]
  | cons c cs ih =>
      obtain ⟨front, last, hcs, hall⟩ := ih
      by_cases hc : c = sep
      · refine ⟨[] :: front, last, ?_, ?_⟩
        · rw [cutChars, if_pos hc, hcs, List.cons_append]
        · rw [List.cons_append, cutChars, if_pos hc, hall, List.cons_append]
      · cases front with
        | nil => exact ⟨[], c :: last, by simp [cutChars, hc, hcs], by simp [cutChars, hc, hall]⟩
        | cons first front =>
            exact ⟨(c :: first) :: front, last, by simp [cutChars, hc, hcs],
              by simp [cutChars, hc, hall]⟩

theorem cutChars_append_cons (sep : Char) (cs tail : List Char) :
    cutChars sep (cs ++ sep :: tail) = cutChars sep cs ++ cutChars sep tail := by
  induction cs with
  | nil => simp [cutChars]
  | cons c cs ih =>
      rw [List.cons_append, cutChars, cutChars, ih]
      by_cases hc : c = sep
      · simp [hc]
      · obtain ⟨piece, pieces, hcs⟩ := List.exists_cons_of_ne_nil (cutChars_ne_nil sep cs)
        simp [hc, hcs]

theorem cut_append_singleton (sep : Char) (s tail : String) :
    cut sep (s ++ String.singleton sep ++ tail) = cut sep s ++ cut sep tail := by
  have htext : (s ++ String.singleton sep ++ tail).toList = s.toList ++ sep :: tail.toList := by
    simp [String.toList_append]
  rw [cut, htext, cutChars_append_cons, List.map_append, cut, cut]

/-- A text without the separator ends up in the last piece. -/
theorem cut_append {sep : Char} (s : String) {tail : String} (htail : sep ∉ tail.toList) :
    ∃ front last, cut sep s = front ++ [last] ∧ cut sep (s ++ tail) = front ++ [last ++ tail] := by
  obtain ⟨front, last, hs, hall⟩ := cutChars_append s.toList htail
  refine ⟨front.map String.ofList, String.ofList last, ?_, ?_⟩
  · rw [cut, hs, List.map_append, List.map_singleton]
  · rw [cut, String.toList_append, hall, List.map_append, List.map_singleton, String.ofList_append,
      String.ofList_toList]

/-! ### Numbers in a text -/

theorem toString_nat_inj {count other : Nat} (heq : toString count = toString other) :
    count = other := by
  have hdigits : Nat.toDigits 10 count = Nat.toDigits 10 other := by
    simpa [← String.toList_inj] using heq
  have hvalue := congrArg (Nat.ofDigitChars 10 · 0) hdigits
  simpa [Nat.ofDigitChars_toDigits] using hvalue

theorem isDigit_of_mem_toString {n : Nat} {c : Char} (hc : c ∈ (toString n).toList) :
    c.isDigit = true := by
  have hmem : c ∈ Nat.toDigits 10 n := by simpa using hc
  exact Nat.isDigit_of_mem_toDigits (by decide) (by decide) hmem

end Signpost.Text
