import Signpost.Title
import Signpost.Proofs.CutAndJoin

/-!
# The line of a heading

A heading is one line, a mark and a text, and the title of a body is the text of the first heading.
Most bodies are read in this way, but not all: a mark with nothing else on its line takes for its
text the next line that is not blank, whatever this line is. So a bare mark with text somewhere after
it decides the title, unless a heading stands before it.
-/

namespace Signpost

namespace Title

/-- A `#`, white space and a text, which counts without the white space around it. -/
def IsHeading (line text : String) : Prop :=
  ∃ space words, line = "#" ++ space ++ words ∧ space ≠ "" ∧ Text.isBlank space = true ∧
    Text.isBlank words = false ∧ text = Text.trim words

/-- A `#` and at most white space. -/
def IsBare (line : String) : Prop :=
  ∃ space, line = "#" ++ space ∧ Text.isBlank space = true

def IsMark (line : String) : Prop :=
  IsBare line ∨ ∃ text, IsHeading line text

/-- The line is the first one with the property, and `back` are the lines after it. -/
def IsFirst (p : String → Prop) (lines : List String) (line : String) (back : List String) : Prop :=
  ∃ front, lines = front ++ line :: back ∧ p line ∧ ∀ other ∈ front, ¬p other

/-- The text of the first heading among the lines of a body. -/
def FirstHeading (body text : String) : Prop :=
  ∃ line back, IsFirst (fun other => ∃ words, IsHeading other words) (Text.cut '\n' body) line back ∧
    IsHeading line text

/-- The first line that is not blank, without the white space around it. -/
def FirstText (lines : List String) (text : String) : Prop :=
  ∃ line back, IsFirst (fun other => Text.isBlank other = false) lines line back ∧
    text = Text.trim line

/-- The first mark in the body is bare, and the text is on a line after it. -/
def ReadsOn (body text : String) : Prop :=
  ∃ mark back, IsFirst IsMark (Text.cut '\n' body) mark back ∧ IsBare mark ∧ FirstText back text

/-! ### The first of some lines -/

section IsFirst

variable {p : String → Prop} {lines back : List String} {line other : String}

theorem not_isFirst_nil : ¬IsFirst p [] line back := by
  rintro ⟨front, hlines, -⟩
  simp at hlines

theorem isFirst_cons_of_pos (hother : p other) :
    IsFirst p (other :: lines) line back ↔ line = other ∧ back = lines := by
  constructor
  · rintro ⟨front, hlines, -, hfront⟩
    cases front with
    | nil =>
        cases hlines
        exact ⟨rfl, rfl⟩
    | cons first front =>
        cases hlines
        exact absurd hother (hfront other List.mem_cons_self)
  · rintro ⟨rfl, rfl⟩
    exact ⟨[], rfl, hother, by simp⟩

theorem isFirst_cons_of_neg (hother : ¬p other) :
    IsFirst p (other :: lines) line back ↔ IsFirst p lines line back := by
  constructor
  · rintro ⟨front, hlines, hline, hfront⟩
    cases front with
    | nil =>
        cases hlines
        exact absurd hline hother
    | cons first front =>
        cases hlines
        exact ⟨front, rfl, hline, (List.forall_mem_cons.mp hfront).2⟩
  · rintro ⟨front, rfl, hline, hfront⟩
    exact ⟨other :: front, rfl, hline, List.forall_mem_cons.mpr ⟨hother, hfront⟩⟩

theorem exists_isFirst (hline : line ∈ lines) (hp : p line) :
    ∃ first back, IsFirst p lines first back := by
  induction lines with
  | nil => simp at hline
  | cons other lines ih =>
      by_cases hother : p other
      · exact ⟨other, lines, (isFirst_cons_of_pos hother).mpr ⟨rfl, rfl⟩⟩
      · have hrest : line ∈ lines := by
          rcases List.mem_cons.mp hline with rfl | hrest
          · exact absurd hp hother
          · exact hrest
        obtain ⟨first, back, hfirst⟩ := ih hrest
        exact ⟨first, back, (isFirst_cons_of_neg hother).mpr hfirst⟩

theorem IsFirst.unique {otherBack : List String} (hfirst : IsFirst p lines line back)
    (hother : IsFirst p lines other otherBack) : line = other ∧ back = otherBack := by
  induction lines with
  | nil => exact absurd hfirst not_isFirst_nil
  | cons head lines ih =>
      by_cases hhead : p head
      · obtain ⟨rfl, rfl⟩ := (isFirst_cons_of_pos hhead).mp hfirst
        obtain ⟨rfl, rfl⟩ := (isFirst_cons_of_pos hhead).mp hother
        exact ⟨rfl, rfl⟩
      · exact ih ((isFirst_cons_of_neg hhead).mp hfirst) ((isFirst_cons_of_neg hhead).mp hother)

theorem IsFirst.holds (hfirst : IsFirst p lines line back) : p line := by
  obtain ⟨-, -, hline, -⟩ := hfirst
  exact hline

theorem IsFirst.mem (hfirst : IsFirst p lines line back) : line ∈ lines := by
  obtain ⟨front, rfl, -⟩ := hfirst
  exact List.mem_append_right front List.mem_cons_self

/-- The first line with a property that has a stronger one is also the first with this one. -/
theorem IsFirst.of_imp {q : String → Prop} (hfirst : IsFirst p lines line back) (hline : q line)
    (himp : ∀ other, q other → p other) : IsFirst q lines line back := by
  obtain ⟨front, hlines, -, hfront⟩ := hfirst
  exact ⟨front, hlines, hline, fun other hother => mt (himp other) (hfront other hother)⟩

/-- Another line with the property comes later. -/
theorem IsFirst.eq_or_mem (hfirst : IsFirst p lines line back) (hmem : other ∈ lines)
    (hother : p other) : other = line ∨ other ∈ back := by
  obtain ⟨front, rfl, -, hfront⟩ := hfirst
  rcases List.mem_append.mp hmem with hbefore | hafter
  · exact absurd hother (hfront other hbefore)
  · exact List.mem_cons.mp hafter

end IsFirst

/-! ### Marks -/

section Marks

variable {line text : String}

theorem isBare_iff :
    IsBare line ↔ ∃ rest, line.toList = '#' :: rest ∧ rest.all Text.isSpace = true := by
  constructor
  · rintro ⟨space, rfl, hspace⟩
    exact ⟨space.toList, String.toList_append, hspace⟩
  · rintro ⟨rest, hline, hrest⟩
    refine ⟨String.ofList rest, ?_, by simpa [Text.isBlank] using hrest⟩
    rw [← String.toList_inj, hline]
    simp [String.toList_append]

theorem isHeading_iff :
    IsHeading line text ↔ ∃ rest, line.toList = '#' :: rest ∧
      (∀ c ∈ rest.head?, Text.isSpace c = true) ∧ rest.all Text.isSpace = false ∧
        text = String.ofList (Text.trimChars rest) := by
  constructor
  · rintro ⟨space, words, rfl, hne, hspace, hwords, rfl⟩
    obtain ⟨c, cs, hcs⟩ := List.exists_cons_of_ne_nil (mt String.toList_eq_nil_iff.mp hne)
    have hall : space.toList.all Text.isSpace = true := hspace
    refine ⟨space.toList ++ words.toList, ?_, ?_, ?_, ?_⟩
    · simp [String.toList_append]
    · rw [hcs, List.all_cons, Bool.and_eq_true] at hall
      simpa [hcs] using hall.1
    · rw [List.all_append, hall, Bool.true_and]
      exact hwords
    · rw [Text.trimChars_append_of_blank hall, Text.trim]
  · rintro ⟨rest, hline, hhead, hrest, rfl⟩
    cases rest with
    | nil => simp at hrest
    | cons c rest =>
        have hc : Text.isSpace c = true := hhead c rfl
        have hall : [c].all Text.isSpace = true := by simpa using hc
        have htrim := Text.trimChars_append_of_blank hall rest
        refine ⟨String.singleton c, String.ofList rest, ?_, by simp, ?_, ?_, ?_⟩
        · rw [← String.toList_inj, hline]
          simp [String.toList_append]
        · simpa [Text.isBlank] using hc
        · simpa [Text.isBlank, hc] using hrest
        · rw [Text.trim, String.toList_ofList, ← htrim, List.singleton_append]

theorem isMark_iff :
    IsMark line ↔ ∃ rest, line.toList = '#' :: rest ∧ ∀ c ∈ rest.head?, Text.isSpace c = true := by
  rw [IsMark, isBare_iff]
  simp only [isHeading_iff]
  constructor
  · rintro (⟨rest, hline, hrest⟩ | ⟨text, rest, hline, hhead, -⟩)
    · exact ⟨rest, hline, fun c hc => List.all_eq_true.mp hrest c (List.mem_of_mem_head? hc)⟩
    · exact ⟨rest, hline, hhead⟩
  · rintro ⟨rest, hline, hhead⟩
    cases hrest : rest.all Text.isSpace with
    | true => exact .inl ⟨rest, hline, hrest⟩
    | false => exact .inr ⟨_, rest, hline, hhead, hrest, rfl⟩

theorem IsHeading.not_isBare (hheading : IsHeading line text) : ¬IsBare line := by
  obtain ⟨rest, hline, -, hrest, -⟩ := isHeading_iff.mp hheading
  intro hbare
  obtain ⟨other, hother, hblank⟩ := isBare_iff.mp hbare
  rw [hline] at hother
  cases hother
  rw [hrest] at hblank
  cases hblank

theorem IsHeading.unique {other : String} (hheading : IsHeading line text)
    (hother : IsHeading line other) : text = other := by
  obtain ⟨rest, hline, -, -, rfl⟩ := isHeading_iff.mp hheading
  obtain ⟨words, hwords, -, -, rfl⟩ := isHeading_iff.mp hother
  rw [hline] at hwords
  cases hwords
  rfl

theorem IsHeading.isBlank_eq_false (hheading : IsHeading line text) :
    Text.isBlank line = false := by
  obtain ⟨rest, hline, -⟩ := isHeading_iff.mp hheading
  rw [Text.isBlank, hline, List.all_cons]
  rfl

end Marks

/-! ### Reading lines -/

theorem not_firstText_nil {text : String} : ¬FirstText [] text := by
  rintro ⟨line, back, hfirst, -⟩
  exact not_isFirst_nil hfirst

theorem firstText_cons_of_blank {line text : String} {lines : List String}
    (hline : Text.isBlank line = true) : FirstText (line :: lines) text ↔ FirstText lines text := by
  unfold FirstText
  simp only [isFirst_cons_of_neg (p := fun other => Text.isBlank other = false)
    (by simpa using hline)]

theorem firstText_cons_of_not_blank {line text : String} {lines : List String}
    (hline : Text.isBlank line = false) : FirstText (line :: lines) text ↔ text = Text.trim line := by
  unfold FirstText
  simp only [isFirst_cons_of_pos (p := fun other => Text.isBlank other = false) hline]
  simp

/-- What stands after a line when these lines follow it. -/
def ending (lines : List String) : List Char :=
  lines.flatMap fun line => '\n' :: line.toList

theorem ending_cons (line : String) (lines : List String) :
    ending (line :: lines) = '\n' :: (line.toList ++ ending lines) := by
  rw [ending, List.flatMap_cons, List.cons_append]
  rfl

theorem toList_join_cons (line : String) (lines : List String) :
    (Text.join "\n" (line :: lines)).toList = line.toList ++ ending lines := by
  induction lines generalizing line with
  | nil => simp [Text.join, ending]
  | cons next lines ih =>
      rw [Text.join_cons_of_ne_nil "\n" line (List.cons_ne_nil next lines), String.toList_append,
        String.toList_append, ih, ending_cons, List.append_assoc]
      rfl

/-- The text of a heading, in what stands after its mark. -/
def textOf? (rest : List Char) : Option String :=
  let line := (Text.trimStartChars rest).takeWhile (· != '\n')
  if line.isEmpty then none else some (String.ofList (Text.trimEndChars line))

theorem heading?_eq_bind (body : String) :
    heading? body = (afterMark? true body.toList).bind textOf? := rfl

section Reading

variable {cs rest : List Char} {line text : String} {lines : List String}

theorem textOf?_append_of_blank (hcs : cs.all Text.isSpace = true) (rest : List Char) :
    textOf? (cs ++ rest) = textOf? rest := by
  rw [textOf?, Text.trimStartChars_append_of_blank hcs, textOf?]

theorem takeWhile_ending (hfree : '\n' ∉ cs) :
    (cs ++ ending lines).takeWhile (· != '\n') = cs := by
  have hkept : ∀ c ∈ cs, (c != '\n') = true := by
    intro c hc
    rw [bne_iff_ne]
    rintro rfl
    exact hfree hc
  rw [List.takeWhile_append_of_pos hkept]
  cases lines with
  | nil => simp [ending]
  | cons line lines => simp [ending_cons]

theorem textOf?_of_not_blank (hfree : '\n' ∉ cs) (hcs : cs.all Text.isSpace = false) :
    textOf? (cs ++ ending lines) = some (String.ofList (Text.trimChars cs)) := by
  have hne : Text.trimStartChars cs ≠ [] := by
    rw [Ne, Text.trimStartChars_eq_nil_iff, hcs]
    exact Bool.false_ne_true
  have hstart : Text.trimStartChars (cs ++ ending lines) =
      Text.trimStartChars cs ++ ending lines := by
    unfold Text.trimStartChars at hne ⊢
    rw [List.dropWhile_append, if_neg (mt List.isEmpty_iff.mp hne)]
  have hfreeStart : '\n' ∉ Text.trimStartChars cs :=
    fun hmem => hfree ((List.dropWhile_sublist _).subset hmem)
  rw [textOf?, hstart, takeWhile_ending hfreeStart, if_neg (by simpa using hne)]
  rfl

theorem textOf?_ending_cons (line : String) (lines : List String) :
    textOf? (ending (line :: lines)) = textOf? (line.toList ++ ending lines) := by
  have hnewline : ['\n'].all Text.isSpace = true := by decide
  rw [ending_cons, ← textOf?_append_of_blank hnewline (line.toList ++ ending lines)]
  rfl

/-- Blank lines are passed over, and the text ends with the line that it begins on. -/
theorem textOf?_ending_eq_some_iff (hlines : ∀ line ∈ lines, '\n' ∉ line.toList) :
    textOf? (ending lines) = some text ↔ FirstText lines text := by
  induction lines with
  | nil => simp [ending, textOf?, Text.trimStartChars, not_firstText_nil]
  | cons line lines ih =>
      obtain ⟨hfree, hlines⟩ := List.forall_mem_cons.mp hlines
      rw [textOf?_ending_cons]
      cases hline : Text.isBlank line with
      | true => rw [textOf?_append_of_blank hline, firstText_cons_of_blank hline, ih hlines]
      | false =>
          rw [textOf?_of_not_blank hfree hline, firstText_cons_of_not_blank hline, Text.trim,
            Option.some_inj, eq_comm]

theorem afterMark?_false_append (hfree : '\n' ∉ cs) (rest : List Char) :
    afterMark? false (cs ++ rest) = afterMark? false rest := by
  induction cs with
  | nil => rfl
  | cons c cs ih =>
      obtain ⟨hc, hcs⟩ := List.ne_and_not_mem_of_not_mem_cons hfree
      have hend : (c == '\n') = false := by simpa using Ne.symm hc
      rw [List.cons_append, afterMark?, Bool.false_and, Bool.false_and, if_neg Bool.false_ne_true,
        hend, ih hcs]

/-- A line without a mark is passed over. -/
theorem afterMark?_of_not_isMark (hfree : '\n' ∉ line.toList) (hmark : ¬IsMark line) :
    afterMark? true (line.toList ++ ending lines) = afterMark? false (ending lines) := by
  cases hline : line.toList with
  | nil => cases lines <;> simp [ending, afterMark?]
  | cons c cs =>
      rw [hline] at hfree
      obtain ⟨hc, hcs⟩ := List.ne_and_not_mem_of_not_mem_cons hfree
      have hend : (c == '\n') = false := by simpa using Ne.symm hc
      have hplain : ¬((true && c == '#' && (cs ++ ending lines).head?.any Text.isSpace) = true) := by
        intro hcond
        simp only [Bool.true_and, Bool.and_eq_true, beq_iff_eq] at hcond
        obtain ⟨rfl, hspace⟩ := hcond
        refine hmark (isMark_iff.mpr ⟨cs, hline, fun d hd => ?_⟩)
        rw [List.head?_append, Option.mem_def.mp hd] at hspace
        exact hspace
      rw [List.cons_append, afterMark?, if_neg hplain, hend, afterMark?_false_append hcs]

/-- A mark takes what stands after it. -/
theorem bind_afterMark?_of_mark (hhead : ∀ c ∈ rest.head?, Text.isSpace c = true) :
    (afterMark? true ('#' :: (rest ++ ending lines))).bind textOf? =
      textOf? (rest ++ ending lines) := by
  have hall : (rest ++ ending lines).head?.all Text.isSpace = true := by
    cases rest with
    | nil =>
        cases lines with
        | nil => rfl
        | cons line lines => rfl
    | cons c rest => exact hhead c rfl
  cases hmore : rest ++ ending lines with
  | nil => rfl
  | cons c more =>
      rw [hmore] at hall
      rw [afterMark?, if_pos (by simpa using hall), Option.bind_some]

/-- What the lines of a body give as its heading. -/
def Gives (lines : List String) (text : String) : Prop :=
  ∃ mark back, IsFirst IsMark lines mark back ∧
    (IsHeading mark text ∨ IsBare mark ∧ FirstText back text)

theorem not_gives_nil : ¬Gives [] text := by
  rintro ⟨mark, back, hfirst, -⟩
  exact not_isFirst_nil hfirst

theorem gives_cons_of_not_isMark (hmark : ¬IsMark line) :
    Gives (line :: lines) text ↔ Gives lines text := by
  unfold Gives
  simp only [isFirst_cons_of_neg hmark]

/-- A mark gives the first text in what stands after it, on its own line or on a later one. -/
theorem gives_cons_of_mark (hline : line.toList = '#' :: rest)
    (hhead : ∀ c ∈ rest.head?, Text.isSpace c = true) :
    Gives (line :: lines) text ↔ FirstText (String.ofList rest :: lines) text := by
  have hmark : IsMark line := isMark_iff.mpr ⟨rest, hline, hhead⟩
  have hgives : Gives (line :: lines) text ↔
      IsHeading line text ∨ IsBare line ∧ FirstText lines text := by
    unfold Gives
    simp only [isFirst_cons_of_pos hmark]
    exact ⟨fun ⟨_, _, ⟨hmark, hback⟩, hgiven⟩ => hmark ▸ hback ▸ hgiven,
      fun hgiven => ⟨line, lines, ⟨rfl, rfl⟩, hgiven⟩⟩
  rw [hgives]
  cases hrest : rest.all Text.isSpace with
  | true =>
      have hbare : IsBare line := isBare_iff.mpr ⟨rest, hline, hrest⟩
      have hnot : ¬IsHeading line text := fun hheading => hheading.not_isBare hbare
      rw [firstText_cons_of_blank (by simpa [Text.isBlank] using hrest)]
      simp [hbare, hnot]
  | false =>
      have hheading : IsHeading line (String.ofList (Text.trimChars rest)) :=
        isHeading_iff.mpr ⟨rest, hline, hhead, hrest, rfl⟩
      rw [firstText_cons_of_not_blank (by simpa [Text.isBlank] using hrest), Text.trim,
        String.toList_ofList]
      constructor
      · rintro (hother | ⟨hbare, -⟩)
        · exact hother.unique hheading
        · exact absurd hbare hheading.not_isBare
      · rintro rfl
        exact .inl hheading

/-- Lines are passed over up to the first mark, and this gives the text. -/
theorem bind_afterMark?_ending_eq_some_iff (hlines : ∀ line ∈ lines, '\n' ∉ line.toList) :
    (afterMark? false (ending lines)).bind textOf? = some text ↔ Gives lines text := by
  induction lines with
  | nil => simp [ending, afterMark?, not_gives_nil]
  | cons line lines ih =>
      have hbegin : afterMark? false (ending (line :: lines)) =
          afterMark? true (line.toList ++ ending lines) := rfl
      obtain ⟨hfree, hrest⟩ := List.forall_mem_cons.mp hlines
      rw [hbegin]
      by_cases hmark : IsMark line
      · obtain ⟨rest, hline, hhead⟩ := isMark_iff.mp hmark
        have hfreeRest : ∀ other ∈ String.ofList rest :: lines, '\n' ∉ other.toList := by
          refine List.forall_mem_cons.mpr ⟨fun hmem => hfree ?_, hrest⟩
          rw [String.toList_ofList] at hmem
          exact hline ▸ List.mem_cons_of_mem '#' hmem
        rw [gives_cons_of_mark hline hhead, ← textOf?_ending_eq_some_iff hfreeRest,
          textOf?_ending_cons, String.toList_ofList, hline, List.cons_append,
          bind_afterMark?_of_mark hhead]
      · rw [afterMark?_of_not_isMark hfree hmark, gives_cons_of_not_isMark hmark, ih hrest]

end Reading

/-- The first mark in a body gives its heading, and nothing else does. -/
theorem heading?_eq_some_iff {body text : String} :
    heading? body = some text ↔ Gives (Text.cut '\n' body) text := by
  have hfree : ∀ line ∈ Text.cut '\n' body, '\n' ∉ line.toList :=
    fun line hline => Text.notMem_of_mem_cut hline
  rw [heading?_eq_bind, ← bind_afterMark?_ending_eq_some_iff hfree]
  cases hcut : Text.cut '\n' body with
  | nil => exact absurd hcut (by simp [Text.cut, Text.cutChars_ne_nil])
  | cons line lines =>
      have hbody : body.toList = line.toList ++ ending lines := by
        rw [← toList_join_cons, ← hcut]
        exact congrArg String.toList (Text.join_cut '\n' body).symm
      rw [hbody]
      rfl

/-- **A heading is read from its own line unless a bare mark reads on.** Where the first mark of a
body is bare and a text follows it, this text is the heading. In every other body the heading is
the text of the first line that is one, and there is none if no line is. -/
theorem heading?_firstHeading (body : String) :
    (∀ text, ReadsOn body text → heading? body = some text) ∧
      ((∀ text, ¬ReadsOn body text) →
        ∀ text, heading? body = some text ↔ FirstHeading body text) := by
  refine ⟨?_, fun hreads text => ?_⟩
  · rintro text ⟨mark, back, hfirst, hbare, htext⟩
    exact heading?_eq_some_iff.mpr ⟨mark, back, hfirst, .inr ⟨hbare, htext⟩⟩
  · rw [heading?_eq_some_iff]
    constructor
    · rintro ⟨mark, back, hfirst, hheading | ⟨hbare, htext⟩⟩
      · have hheadings : IsFirst (fun other => ∃ words, IsHeading other words)
            (Text.cut '\n' body) mark back :=
          hfirst.of_imp ⟨text, hheading⟩ fun other => .inr
        exact ⟨mark, back, hheadings, hheading⟩
      · exact absurd ⟨mark, back, hfirst, hbare, htext⟩ (hreads text)
    · rintro ⟨line, back, hheadings, hheading⟩
      have hmark : IsMark line := .inr ⟨text, hheading⟩
      obtain ⟨mark, after, hfirst⟩ := exists_isFirst hheadings.mem hmark
      rcases hfirst.eq_or_mem hheadings.mem hmark with rfl | hafter
      · exact ⟨line, after, hfirst, .inl hheading⟩
      · obtain ⟨next, rest, hnext⟩ :=
          exists_isFirst (p := fun other => Text.isBlank other = false) hafter
            hheading.isBlank_eq_false
        rcases hfirst.holds with hbare | ⟨words, hwords⟩
        · exact absurd ⟨mark, after, hfirst, hbare, next, rest, hnext, rfl⟩
            (hreads (Text.trim next))
        · have hmarks : IsFirst (fun other => ∃ words, IsHeading other words)
              (Text.cut '\n' body) mark after :=
            hfirst.of_imp ⟨words, hwords⟩ fun other => .inr
          obtain ⟨rfl, rfl⟩ := hheadings.unique hmarks
          exact ⟨line, back, hfirst, .inl hheading⟩

/-- A heading after words and before a bare mark, and a bare mark that reads on to a heading. -/
theorem heading?_firstHeading_sample :
    (∀ text, ¬ReadsOn "#x\n# Getting \tStarted \r\n#\nText" text) ∧
      FirstHeading "#x\n# Getting \tStarted \r\n#\nText" "Getting \tStarted" ∧
      heading? "#x\n# Getting \tStarted \r\n#\nText" = some "Getting \tStarted" ∧
      ReadsOn "# \n\n# A" "# A" ∧ heading? "# \n\n# A" = some "# A" := by
  have hwords : ¬IsMark "#x" := by
    rw [isMark_iff]
    rintro ⟨rest, ⟨⟩, hhead⟩
    exact absurd (hhead 'x' rfl) (by decide)
  have hheading : IsHeading "# Getting \tStarted \r" "Getting \tStarted" :=
    ⟨" ", "Getting \tStarted \r", by decide⟩
  have hfirst : IsFirst IsMark (Text.cut '\n' "#x\n# Getting \tStarted \r\n#\nText")
      "# Getting \tStarted \r" ["#", "Text"] :=
    ⟨["#x"], by decide, .inr ⟨_, hheading⟩, by simpa using hwords⟩
  have hreads : ∀ text, ¬ReadsOn "#x\n# Getting \tStarted \r\n#\nText" text := by
    rintro text ⟨mark, back, hmark, hbare, -⟩
    exact hheading.not_isBare ((hmark.unique hfirst).1 ▸ hbare)
  have hfirstHeading : FirstHeading "#x\n# Getting \tStarted \r\n#\nText" "Getting \tStarted" :=
    ⟨_, _, hfirst.of_imp ⟨_, hheading⟩ fun other => .inr, hheading⟩
  have hbare : IsBare "# " := ⟨" ", by decide⟩
  have hon : ReadsOn "# \n\n# A" "# A" :=
    ⟨"# ", ["", "# A"], ⟨[], by decide, .inl hbare, by simp⟩, hbare, "# A", [],
      ⟨[""], by decide⟩, by decide⟩
  exact ⟨hreads, hfirstHeading,
    ((heading?_firstHeading _).2 hreads "Getting \tStarted").mpr hfirstHeading,
    hon, (heading?_firstHeading _).1 "# A" hon⟩

/-- No line of the body is a heading, and still the line after the bare mark becomes one. -/
theorem heading?_of_bare :
    heading? "#\n\nSome text\n" = some "Some text" ∧
      ∀ text, ¬FirstHeading "#\n\nSome text\n" text := by
  refine ⟨by decide, ?_⟩
  rintro text ⟨line, back, hfirst, hheading⟩
  have hcut : Text.cut '\n' "#\n\nSome text\n" = ["#", "", "Some text", ""] := by decide
  have hline := hfirst.mem
  rw [hcut] at hline
  obtain ⟨rest, htoList, -, hrest, -⟩ := isHeading_iff.mp hheading
  simp only [List.mem_cons, List.not_mem_nil, or_false] at hline
  rcases hline with rfl | rfl | rfl | rfl
  · cases htoList
    cases hrest
  · cases htoList
  · cases htoList
  · cases htoList

end Title

end Signpost
