import Signpost.Proofs.DecodedAscii
import Signpost.Proofs.FilledRegistry
import Signpost.Proofs.PathFolding
import Signpost.Proofs.RelativeLinks

/-!
# Links that lead nowhere

A relative link to a Markdown file names one path: the link is decoded, put behind the directory of
its document, and folded. If no document was read from that path and none has it as its id, the link
is reported.

The test for an address with a scheme comes after decoding, however. So a link is passed over if a
colon is escaped in its first piece and only letters, digits and a few marks stand before it.
-/

namespace Signpost

namespace Link

open Discovery

/-- The path without the ending of a Markdown file. -/
def HasStem (path stem : String) : Prop :=
  path = stem ++ ".md" ∨ path = stem ++ ".mdx"

/-- The characters of a link before its first slash. -/
def firstPiece (raw : String) : List Char :=
  raw.toList.takeWhile (· ≠ '/')

/-- The link is escaped somewhere in the given text. -/
def HasEscaped (c : Char) (text : List Char) : Prop :=
  ∃ escape, Text.EscapedBytes (String.utf8EncodeChar c) escape ∧ escape <:+: text

/-- The path of a link that is relative as it is written: not empty, not from the root, without a
scheme, and without a slash that is not one of the path. -/
structure IsRelative (raw : String) : Prop where
  ne_empty : raw ≠ ""
  not_rooted : raw.toList.head? ≠ some '/'
  no_colon : ':' ∉ firstPiece raw
  no_escaped_slash : ¬HasEscaped '/' raw.toList

/-- A path is taken for an address if it begins with a scheme. -/
def BeginsWithScheme (path : String) : Prop :=
  ∃ scheme rest, path.toList = scheme ++ ':' :: rest ∧ scheme ≠ [] ∧
    ∀ c ∈ scheme, c.isAlphanum = true ∨ c = '+' ∨ c = '-' ∨ c = '.'

theorem isSchemeChar_iff {c : Char} :
    isSchemeChar c = true ↔ c.isAlphanum = true ∨ c = '+' ∨ c = '-' ∨ c = '.' := by
  simp [isSchemeChar, or_assoc]

theorem hasScheme_iff {path : String} : hasScheme path = true ↔ BeginsWithScheme path := by
  have hsplit := List.takeWhile_append_dropWhile (p := (· ≠ ':')) (l := path.toList)
  constructor
  · intro hscheme
    simp only [hasScheme, Bool.and_eq_true, decide_eq_true_eq, Bool.not_eq_true',
      List.isEmpty_eq_false_iff, List.all_eq_true, isSchemeChar_iff] at hscheme
    obtain ⟨⟨hlength, hne⟩, hall⟩ := hscheme
    cases hrest : path.toList.dropWhile (· ≠ ':') with
    | nil =>
        rw [hrest, List.append_nil] at hsplit
        rw [hsplit] at hlength
        exact absurd hlength (Nat.lt_irrefl _)
    | cons mark rest =>
        have hmark : mark = ':' := by
          have hhead := List.head?_dropWhile_not (· ≠ ':') path.toList
          rw [hrest] at hhead
          simpa using hhead
        subst hmark
        rw [hrest] at hsplit
        exact ⟨_, rest, hsplit.symm, hne, hall⟩
  · rintro ⟨scheme, rest, hpath, hne, hall⟩
    have hfree : ∀ c ∈ scheme, (decide (c ≠ ':')) = true := by
      intro c hc
      refine decide_eq_true ?_
      rintro rfl
      exact absurd (hall ':' hc) (by decide)
    have htake : path.toList.takeWhile (· ≠ ':') = scheme := by
      rw [hpath, List.takeWhile_append_of_pos hfree]
      simp
    simp only [hasScheme, htake, Bool.and_eq_true, decide_eq_true_eq, Bool.not_eq_true',
      List.isEmpty_eq_false_iff, List.all_eq_true, isSchemeChar_iff]
    exact ⟨⟨by rw [hpath]; simp, hne⟩, hall⟩

theorem isPlainAscii_of_scheme {c : Char}
    (hc : c.isAlphanum = true ∨ c = '+' ∨ c = '-' ∨ c = '.') : Text.IsPlainAscii c := by
  rcases hc with halphanum | rfl | rfl | rfl
  · simp only [Char.isAlphanum, Char.isAlpha, Char.isUpper, Char.isLower, Char.isDigit,
      Bool.or_eq_true, Bool.and_eq_true, decide_eq_true_eq, ge_iff_le, UInt32.le_iff_toNat_le,
      Char.reduceVal, UInt32.reduceToNat] at halphanum
    unfold Text.IsPlainAscii
    change 0 < c.val.toNat ∧ c.val.toNat < 128
    omega
  · decide
  · decide
  · decide

theorem HasEscaped.exists_digits {c : Char} {text : List Char} (hescaped : HasEscaped c text)
    (hc : c.toNat < 128) :
    ∃ high low, ['%', high, low] <:+: text ∧ Text.hexValue high = some (c.toNat / 16) ∧
      Text.hexValue low = some (c.toNat % 16) := by
  obtain ⟨escape, hbytes, hinfix⟩ := hescaped
  obtain ⟨high, low, rfl, hdigits⟩ := Text.exists_digits_of_escapedBytes hc hbytes
  exact ⟨high, low, hinfix, hdigits⟩

section Path

variable {raw : String}

theorem not_rooted_percentDecode (hraw : IsRelative raw) :
    Text.beginsWith (Text.percentDecode raw) "/" = false := by
  rw [← Bool.not_eq_true, Text.beginsWith_iff, Text.toList_percentDecode]
  rintro ⟨rest, hrooted⟩
  obtain ⟨written, more, hsplit, hwritten, -⟩ :=
    Text.exists_written_of_decode_eq_cons (by decide : Text.IsPlainAscii '/') hrooted
  rcases hwritten with rfl | hescaped
  · exact hraw.not_rooted (by rw [hsplit]; rfl)
  · exact hraw.no_escaped_slash ⟨written, hescaped, [], more, by rw [hsplit]; rfl⟩

/-- A relative link is taken for an address only because of an escaped colon. -/
theorem hasEscaped_colon_of_beginsWithScheme (hraw : IsRelative raw)
    (hscheme : BeginsWithScheme (Text.percentDecode raw)) : HasEscaped ':' (firstPiece raw) := by
  obtain ⟨scheme, rest, hpath, -, hall⟩ := hscheme
  rw [Text.toList_percentDecode] at hpath
  have hascii : ∀ c ∈ scheme, Text.IsPlainAscii c := fun c hc => isPlainAscii_of_scheme (hall c hc)
  have hslash : '/' ∉ scheme := fun hmem => absurd (hall '/' hmem) (by decide)
  obtain ⟨pieces, written, more, hsplit, hpieces, hwritten⟩ :=
    Text.exists_written_of_decode_eq_append hascii (by decide : Text.IsPlainAscii ':') hpath
  -- neither what stands for the scheme nor what stands for the colon goes beyond the first slash
  have hfront : '/' ∉ pieces.flatten :=
    Text.notMem_flatten_of_isWrittenChar (by decide) (by decide) hslash hpieces
  have hcolon : '/' ∉ written :=
    Text.notMem_of_isWrittenChar (by decide) (by decide) (by decide) hwritten
  have hkept : ∀ c ∈ pieces.flatten ++ written, decide (c ≠ '/') = true := by
    intro c hc
    have hne : c ≠ '/' := by
      rintro rfl
      exact (List.mem_append.mp hc).elim hfront hcolon
    exact decide_eq_true hne
  have hfirst : firstPiece raw = pieces.flatten ++ written ++ more.takeWhile (· ≠ '/') := by
    rw [firstPiece, hsplit, List.takeWhile_append_of_pos hkept]
  rcases hwritten with rfl | hescaped
  · exact absurd (by rw [hfirst]; simp) hraw.no_colon
  · exact ⟨written, hescaped, pieces.flatten, more.takeWhile (· ≠ '/'), hfirst.symm⟩

end Path

theorem conventionalId_of_hasStem {path stem : String} (hstem : HasStem path stem) :
    conventionalId path = stem := by
  have hmd : Text.dropTail ".md" (stem ++ ".md") = some stem :=
    Text.dropTail_eq_some_iff.mpr rfl
  have hmdx : Text.dropTail ".mdx" (stem ++ ".mdx") = some stem :=
    Text.dropTail_eq_some_iff.mpr rfl
  have hother : Text.dropTail ".md" (stem ++ ".mdx") = none := by
    rw [Option.eq_none_iff_forall_ne_some]
    intro front hfront
    have hlists := congrArg String.toList (Text.dropTail_eq_some_iff.mp hfront)
    have hlast := congrArg List.getLast? hlists
    simp [String.toList_append] at hlast
  rcases hstem with rfl | rfl
  · simp [conventionalId, extensions, hmd]
  · simp [conventionalId, extensions, hmdx, hother]

theorem isMarkdown_of_hasStem {path stem : String} (hstem : HasStem path stem) :
    isMarkdown path = true := by
  rw [isMarkdown, List.any_eq_true]
  rcases hstem with rfl | rfl
  · exact ⟨".md", by decide, Text.endsWith_iff.mpr ⟨stem, rfl⟩⟩
  · exact ⟨".mdx", by decide, Text.endsWith_iff.mpr ⟨stem, rfl⟩⟩

/-! ### The path that a link names -/

theorem isDown_append {tail : String} (front : String) (htail : 3 ≤ tail.length) :
    IsDown (front ++ tail) := by
  have hne {text : String} (htext : text.length < 3) : front ++ tail ≠ text := by
    rintro rfl
    rw [String.length_append] at htext
    omega
  refine ⟨?_, hne (by decide)⟩
  rw [Path.isIdle, Bool.or_eq_false_iff, beq_eq_false_iff_ne, beq_eq_false_iff_ne]
  exact ⟨hne (by decide), hne (by decide)⟩

/-- A path to a Markdown file still ends like one after the walk. -/
theorem exists_hasStem_foldl {path front : String} (hstem : HasStem path front)
    (segments : List String) :
    ∃ stem, HasStem (Text.join "/" ((Text.cut '/' path).foldl walkStep segments)) stem := by
  have hwalk (tail : String) (hslash : '/' ∉ tail.toList) (htail : 3 ≤ tail.length) :
      ∃ stem, Text.join "/" ((Text.cut '/' (front ++ tail)).foldl walkStep segments) =
        stem ++ tail := by
    obtain ⟨pieces, last, -, hcut⟩ := Text.cut_append front hslash
    refine ⟨Text.join "/" (pieces.foldl walkStep segments ++ [last]), ?_⟩
    rw [hcut, List.foldl_append, List.foldl_cons, List.foldl_nil,
      walkStep_of_isDown (isDown_append last htail), Text.join_append_tail]
  rcases hstem with rfl | rfl
  · obtain ⟨stem, hstem⟩ := hwalk ".md" (by decide) (by decide)
    exact ⟨stem, .inl hstem⟩
  · obtain ⟨stem, hstem⟩ := hwalk ".mdx" (by decide) (by decide)
    exact ⟨stem, .inr hstem⟩

theorem mem_walkStep {segments : List String} {piece name : String}
    (hname : name ∈ walkStep segments piece) :
    name ∈ segments ∨ (name = piece ∧ Path.isIdle piece = false) := by
  by_cases hidle : Path.isIdle piece = true
  · rw [walkStep_of_isIdle hidle] at hname
    exact .inl hname
  · have hbusy : Path.isIdle piece = false := by simpa using hidle
    by_cases hup : piece = ".."
    · subst hup
      rcases walkStep_up_eq segments with hkept | htaken
      · rw [hkept, List.mem_append, List.mem_singleton] at hname
        exact hname.imp_right fun hsame => ⟨hsame, hbusy⟩
      · rw [htaken] at hname
        exact .inl (List.dropLast_subset segments hname)
    · rw [walkStep_of_isDown ⟨hbusy, hup⟩, List.mem_append, List.mem_singleton] at hname
      exact hname.imp_right fun hsame => ⟨hsame, hbusy⟩

theorem mem_foldl_walkStep {pieces segments : List String} {name : String}
    (hname : name ∈ pieces.foldl walkStep segments) :
    name ∈ segments ∨ (name ∈ pieces ∧ Path.isIdle name = false) := by
  induction pieces generalizing segments with
  | nil => exact .inl hname
  | cons piece pieces ih =>
      rcases ih hname with hstep | ⟨hmem, hbusy⟩
      · rcases mem_walkStep hstep with hmem | ⟨rfl, hbusy⟩
        · exact .inl hmem
        · exact .inr ⟨List.mem_cons_self, hbusy⟩
      · exact .inr ⟨List.mem_cons_of_mem piece hmem, hbusy⟩

/-- The pieces that are left after the walk are those of a path. -/
theorem arePieces_foldl_walkStep {folder : List String} (hfolder : ∀ name ∈ folder, IsVisible name)
    {path : String} (hne : (Text.cut '/' path).foldl walkStep folder ≠ []) :
    Path.ArePieces ((Text.cut '/' path).foldl walkStep folder) where
  ne_nil := hne
  isIdle_eq := by
    intro name hname
    rcases mem_foldl_walkStep hname with hmem | ⟨-, hbusy⟩
    · exact (hfolder name hmem).isIdle_eq
    · exact hbusy
  slash_notMem := by
    intro name hname
    rcases mem_foldl_walkStep hname with hmem | ⟨hmem, -⟩
    · exact (hfolder name hmem).slash_notMem
    · exact Text.notMem_of_mem_cut hmem

/-! ### What is found, and what is reported -/

section Missing

variable {r : Registry} {ds : List Document} {d : Document} {route : List String}
  {raw front stem suffix : String}

theorem findBySource?_eq_none (hregister : Registry.ofDocuments ds = .ok r)
    (hfiled : ∀ e ∈ ds, e.IsFiled) (hroute : Path.ArePieces route)
    (hmissing : ∀ e ∈ ds, e.source ≠ some ⟨Text.join "/" route⟩) :
    r.findBySource? ⟨Text.join "/" route⟩ = none := by
  rw [Registry.findBySource?, Option.map_eq_none_iff, List.find?_eq_none]
  rintro ⟨path, id⟩ hlisted hsame
  obtain ⟨e, he, hsource, -⟩ := (Registry.mem_sources_iff_of_ofDocuments hregister).mp hlisted
  have hpath : path = ⟨Text.join "/" e.route⟩ :=
    Option.some.inj (hsource.symm.trans (hfiled e he).source_eq)
  subst hpath
  have hnames : e.route = route :=
    ((hfiled e he).isRoute.arePieces.same_join_iff hroute).mp hsame
  exact hmissing e he (hnames ▸ hsource)

theorem resolve?_eq_none (hregister : Registry.ofDocuments ds = .ok r)
    (hfiled : ∀ e ∈ ds, e.IsFiled) (hroute : Path.ArePieces route)
    (hstem : HasStem (Text.join "/" route) stem)
    (hmissing : ∀ e ∈ ds, e.source ≠ some ⟨Text.join "/" route⟩ ∧ e.id ≠ stem) :
    resolve? r (Text.join "/" route) = none := by
  have hid : r.get? stem = none := by
    rw [Option.eq_none_iff_forall_ne_some]
    intro e he
    obtain ⟨hmem, hsame⟩ := (Registry.get?_eq_some_iff_of_ofDocuments hregister).mp he
    exact (hmissing e hmem).2 hsame
  rw [resolve?, findBySource?_eq_none hregister hfiled hroute fun e he => (hmissing e he).1]
  dsimp only
  rw [conventionalId_of_hasStem hstem, hid]
  rfl

theorem target?_eq (hraw : IsRelative raw) (hmarks : ∀ c ∈ raw.toList, ¬IsMark c)
    (hsuffix : IsSuffix suffix) (hstem : HasStem (Text.percentDecode raw) stem) :
    target? d (raw ++ suffix) =
      if hasScheme (Text.percentDecode raw) then none
      else some (normalize d.linkBase (Text.percentDecode raw)) := by
  have hne : Text.percentDecode raw ≠ "" := by
    rcases hstem with hpath | hpath <;> simp [hpath]
  simp [target?, beforeSuffix_append hmarks hsuffix, hne, not_rooted_percentDecode hraw,
    isMarkdown_of_hasStem hstem]

/-- **A link to a file that is missing is reported.** In a registry of the documents below a
directory, a relative link to a Markdown file names one path. If this is the path of no document
and, without its ending, the id of none, the link is reported, unless what it reads as begins with a
scheme. Then it is not reported, and a colon is escaped in its first piece. No name on the way to
the document may have a backslash in it. -/
theorem reported_of_missing (w : Workspace) (root : Path) (hroot : w.root.ProperlyNamed)
    (hr : Registry.ofSource (documents w root) = .ok r) (hd : d ∈ r.all)
    (hslash : ∀ name ∈ d.folder, '\\' ∉ name.toList) (hraw : IsRelative raw)
    (hmarks : ∀ c ∈ raw.toList, ¬IsMark c) (hsuffix : IsSuffix suffix)
    (hfront : HasStem (Text.percentDecode raw) front) (hlink : raw ++ suffix ∈ d.links) :
    ∃ route stem,
      (∀ other, Folds (d.folder ++ Text.cut '/' (Text.percentDecode raw)) other ↔ other = route) ∧
      HasStem (Text.join "/" route) stem ∧
      ((∀ e ∈ r.all, e.source ≠ some ⟨Text.join "/" route⟩ ∧ e.id ≠ stem) →
        (¬BeginsWithScheme (Text.percentDecode raw) →
          checkLink r d (raw ++ suffix) = some ⟨stem, .link d.id⟩ ∧
            ⟨stem, .link d.id⟩ ∈ check r) ∧
        (BeginsWithScheme (Text.percentDecode raw) →
          checkLink r d (raw ++ suffix) = none ∧ HasEscaped ':' (firstPiece raw))) := by
  obtain ⟨-, ds, hds, -⟩ := Registry.consistent_ofSource hr
  have hregister : Registry.ofDocuments ds = .ok r := by
    rw [hds] at hr
    exact hr
  have hproper : ∀ tree, w.find root = .ok tree → tree.ProperlyNamed :=
    fun _ hfind => Workspace.properlyNamed_find hroot hfind
  have hfiled : ∀ e ∈ ds, e.IsFiled := fun e he => isFiled_of_mem_documents hproper hds he
  have hsame : ∀ e, e ∈ r.all ↔ e ∈ ds := fun e => Registry.mem_all_iff_of_ofDocuments hregister
  have hfolder : ∀ name ∈ d.folder, IsVisible name := (hfiled d ((hsame d).mp hd)).visible
  have hfolded : IsFolded d.folder :=
    isFolded_of_isDown fun name hname => isDown_of_isVisible (hfolder name hname)
  obtain ⟨stem, hstem⟩ := exists_hasStem_foldl hfront d.folder
  have hroute : Path.ArePieces ((Text.cut '/' (Text.percentDecode raw)).foldl walkStep d.folder) :=
    arePieces_foldl_walkStep hfolder fun hnil => by
      rcases hstem with hpath | hpath <;> simp [hnil, Text.join] at hpath
  have htarget := target?_eq (d := d) hraw hmarks hsuffix hfront
  rw [(hfiled d ((hsame d).mp hd)).linkBase_eq hslash, normalize, baseSegments_join hfolder]
    at htarget
  refine ⟨_, stem, fun other => ?_, hstem, fun hmissing => ⟨fun hscheme => ?_, fun hscheme => ?_⟩⟩
  · rw [folds_iff hfolded, eq_comm]
  · have hnone := resolve?_eq_none hregister hfiled hroute hstem
      fun e he => hmissing e ((hsame e).mpr he)
    have hreport : checkLink r d (raw ++ suffix) = some ⟨stem, .link d.id⟩ := by
      rw [← hasScheme_iff, Bool.not_eq_true] at hscheme
      simp [checkLink, htarget, hscheme, hnone, conventionalId_of_hasStem hstem]
    exact ⟨hreport, mem_check_iff.mpr ⟨d, hd, raw ++ suffix, hlink, hreport⟩⟩
  · refine ⟨?_, hasEscaped_colon_of_beginsWithScheme hraw hscheme⟩
    rw [← hasScheme_iff] at hscheme
    simp [checkLink, htarget, hscheme]

end Missing

/-- A link with a folder that is left again, an escaped name and a query. Only the other folder is
there. -/
def astray : Workspace where
  root := .directory [("docs", .directory
    [("c", .directory
        [("d.md", .file (Text.encodeUtf8 "# D\n[](../x%20y/.././%C3%A9/gone.mdx?v)"))]),
      ("é", .directory [("e.md", .file (Text.encodeUtf8 "# E"))])])]
  cwd := []
  env := []

theorem documents_astray :
    documents astray ⟨"docs"⟩ =
      .ok [⟨"c/d", "D", some ⟨"c/d.md"⟩, ["../x%20y/.././%C3%A9/gone.mdx?v"]⟩,
        ⟨"é/e", "E", some ⟨"é/e.md"⟩, []⟩] := by
  have hpaths : documentPaths astray ⟨"docs"⟩ = ["c/d.md", "é/e.md"] :=
    documentPaths_eq rfl (by decide +kernel) (by decide)
  rw [documents, hpaths]
  decide +kernel

theorem isRelative_astray : IsRelative "../x%20y/.././%C3%A9/gone.mdx" where
  ne_empty := by decide
  not_rooted := by decide
  no_colon := by decide
  no_escaped_slash := by
    intro hescaped
    obtain ⟨high, low, hinfix, hhigh, hlow⟩ := hescaped.exists_digits (by decide)
    simp only [List.infix_cons_iff, String.reduceToList, List.cons_prefix_cons, List.infix_nil,
      Char.reduceEq, false_and, true_and, false_or, or_false, List.nil_prefix, and_true,
      List.prefix_nil, List.cons_ne_self, reduceCtorEq, and_false] at hinfix
    rcases hinfix with ⟨rfl, rfl⟩ | ⟨rfl, rfl⟩ | ⟨rfl, rfl⟩
    · cases hlow
    · cases hhigh
    · cases hhigh

/-- The link leads to `é/gone.mdx`, and it is reported with this path. -/
theorem reported_of_missing_sample :
    astray.root.ProperlyNamed ∧
      ∃ r d, Registry.ofSource (documents astray ⟨"docs"⟩) = .ok r ∧ d ∈ r.all ∧
        (∀ name ∈ d.folder, '\\' ∉ name.toList) ∧
        "../x%20y/.././%C3%A9/gone.mdx?v" ∈ d.links ∧
        (∀ other, Folds (d.folder ++ ["..", "x y", "..", ".", "é", "gone.mdx"]) other ↔
          other = ["é", "gone.mdx"]) ∧
        checkLink r d "../x%20y/.././%C3%A9/gone.mdx?v" = some ⟨"é/gone", .link d.id⟩ ∧
        ⟨"é/gone", .link d.id⟩ ∈ check r := by
  obtain ⟨r, hr, hall⟩ : ∃ r, Registry.ofSource (documents astray ⟨"docs"⟩) = .ok r ∧
      r.all = [⟨"c/d", "D", some ⟨"c/d.md"⟩, ["../x%20y/.././%C3%A9/gone.mdx?v"]⟩,
        ⟨"é/e", "E", some ⟨"é/e.md"⟩, []⟩] := by
    rw [documents_astray]
    exact ⟨_, rfl, by decide⟩
  have hroot : astray.root.ProperlyNamed := by simp [astray, FileTree.IsName]
  have hd : ⟨"c/d", "D", some ⟨"c/d.md"⟩, ["../x%20y/.././%C3%A9/gone.mdx?v"]⟩ ∈ r.all := by
    simp [hall]
  have hpath : Text.percentDecode "../x%20y/.././%C3%A9/gone.mdx" = "../x y/.././é/gone.mdx" := by
    decide
  have hfront : HasStem (Text.percentDecode "../x%20y/.././%C3%A9/gone.mdx")
      "../x y/.././é/gone" := .inr hpath
  have hmarks : ∀ c ∈ "../x%20y/.././%C3%A9/gone.mdx".toList, ¬IsMark c := by
    simp [IsMark]
  have hsuffix : IsSuffix "?v" := by simp [IsSuffix, IsMark]
  obtain ⟨route, stem, hfolds, hstem, hmissing⟩ := reported_of_missing astray ⟨"docs"⟩ hroot hr hd
    (by decide) isRelative_astray hmarks hsuffix hfront (by decide)
  have hroute : ["é", "gone.mdx"] = route :=
    (hfolds _).mp ((folds_iff (isFolded_of_isDown (by decide))).mpr (by decide))
  subst hroute
  have hid : stem = "é/gone" := (conventionalId_of_hasStem hstem).symm.trans (by decide)
  subst hid
  have hscheme : ¬BeginsWithScheme (Text.percentDecode "../x%20y/.././%C3%A9/gone.mdx") := by
    rw [← hasScheme_iff]
    decide
  obtain ⟨hreport, hcheck⟩ := (hmissing (by rw [hall]; decide)).1 hscheme
  rw [hpath] at hfolds
  exact ⟨hroot, r, _, hr, hd, by decide, by decide, hfolds, hreport, hcheck⟩

/-- One file, with a link whose colon is escaped. -/
def colonEscaped : Workspace where
  root := .directory
    [("docs", .directory [("d.md", .file (Text.encodeUtf8 "# D\n[x](a%3Ab.md)\n"))])]
  cwd := []
  env := []

theorem isRelative_colonEscaped : IsRelative "a%3Ab.md" where
  ne_empty := by decide
  not_rooted := by decide
  no_colon := by decide
  no_escaped_slash := by
    intro hescaped
    obtain ⟨high, low, hinfix, hhigh, -⟩ := hescaped.exists_digits (by decide)
    simp only [List.infix_cons_iff, String.reduceToList, List.cons_prefix_cons, List.infix_nil,
      Char.reduceEq, false_and, true_and, false_or, or_false, List.nil_prefix, and_true,
      List.prefix_nil, List.cons_ne_self, reduceCtorEq, and_false] at hinfix
    obtain ⟨rfl, rfl⟩ := hinfix
    cases hhigh

/-- No file has the name `a:b.md`, but the link to it is taken for an address. -/
theorem not_reported_of_escaped_colon :
    colonEscaped.root.ProperlyNamed ∧ IsRelative "a%3Ab.md" ∧
      HasStem (Text.percentDecode "a%3Ab.md") "a:b" ∧
      ∃ r d, Registry.ofSource (documents colonEscaped ⟨"docs"⟩) = .ok r ∧ d ∈ r.all ∧
        "a%3Ab.md" ∈ d.links ∧
        Folds (d.folder ++ Text.cut '/' (Text.percentDecode "a%3Ab.md")) ["a:b.md"] ∧
        (∀ e ∈ r.all, e.source ≠ some ⟨"a:b.md"⟩ ∧ e.id ≠ "a:b") ∧ check r = [] := by
  have hdocuments : documents colonEscaped ⟨"docs"⟩ =
      .ok [⟨"d", "D", some ⟨"d.md"⟩, ["a%3Ab.md"]⟩] := by
    decide +kernel
  have hroot : colonEscaped.root.ProperlyNamed := by simp [colonEscaped, FileTree.IsName]
  have hpath : Text.percentDecode "a%3Ab.md" = "a:b.md" := by decide
  have hfolds : Folds ([] ++ Text.cut '/' "a:b.md") ["a:b.md"] :=
    (folds_iff (isFolded_of_isDown (by decide))).mpr (by decide)
  rw [hdocuments, hpath]
  exact ⟨hroot, isRelative_colonEscaped, .inl rfl, _, ⟨"d", "D", some ⟨"d.md"⟩, ["a%3Ab.md"]⟩, rfl,
    by decide, by decide, hfolds, by decide, by decide⟩

end Link

end Signpost
