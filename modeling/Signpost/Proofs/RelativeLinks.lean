import Signpost.Link
import Signpost.Proofs.DiscoveredFiles
import Signpost.Proofs.PathFolding
import Signpost.Proofs.PercentReading
import Signpost.Proofs.RegistryContents
import Mathlib

/-!
# Relative links between files

The relative path from the directory of one document to the file of another leads to the source of
that other document: the suffix is cut off, the escapes are read back, each `..` takes one name off
the directory, and the names that remain are those of the source. So the link is not reported.

One thing stands in the way. The directory of a document is read with its backslashes as slashes,
and a backslash may be part of a name.
-/

namespace Signpost

namespace Text

/-- Pieces between slashes are decoded one by one. -/
theorem decodesTo_join {written names : List String}
    (hall : List.Forall₂ (fun piece name => DecodesTo piece.toList name.toList) written names) :
    DecodesTo (join "/" written).toList (join "/" names).toList := by
  have hslash : DecodesTo "/".toList "/".toList := decodesTo_self (by decide)
  induction hall with
  | nil => exact decodesTo_self (by decide)
  | @cons piece name written names hpiece hall ih =>
      cases hall with
      | nil => exact hpiece
      | cons _ _ =>
          rw [join_cons_of_ne_nil "/" piece (List.cons_ne_nil _ _),
            join_cons_of_ne_nil "/" name (List.cons_ne_nil _ _)]
          simp only [String.toList_append]
          exact (hpiece.append hslash).append ih

end Text

namespace Link

open Discovery

/-- The characters at which the path of a link ends. -/
def IsMark (c : Char) : Prop :=
  c = '#' ∨ c = '?'

/-- What may follow the path of a link: nothing, a fragment or a query. -/
def IsSuffix (suffix : String) : Prop :=
  ∀ c ∈ suffix.toList.head?, IsMark c

/-- Nothing, or the dot that a relative path may begin with. -/
def IsLead (lead : List String) : Prop :=
  lead = [] ∨ lead = ["."]

/-- The piece of a link is the name percent-encoded. -/
def IsWritten (name piece : String) : Prop :=
  Text.Escaped name.toList piece.toList

/-- The link is the relative path from a directory to a file, with its names percent-encoded: up
from the directory to one that the file is below, and down from there. -/
inductive LeadsTo : List String → List String → String → Prop where
  | intro {common left rest lead written : List String} {suffix : String} :
      IsLead lead → List.Forall₂ IsWritten rest written → IsSuffix suffix →
        LeadsTo (common ++ left) (common ++ rest)
          (Text.join "/" (lead ++ List.replicate left.length ".." ++ written) ++ suffix)

/-! ### What is left of the link -/

theorem beforeSuffix_append {path suffix : String} (hpath : ∀ c ∈ path.toList, ¬IsMark c)
    (hsuffix : IsSuffix suffix) : beforeSuffix (path ++ suffix) = path := by
  have hkept : ∀ c ∈ path.toList, (!(decide (c = '#') || decide (c = '?'))) = true := by
    intro c hc
    obtain ⟨hhash, hquery⟩ := not_or.mp (hpath c hc)
    simp [hhash, hquery]
  have hcut : suffix.toList.takeWhile (fun c => !(decide (c = '#') || decide (c = '?'))) = [] := by
    cases hlist : suffix.toList with
    | nil => rfl
    | cons c cs =>
        have hc : IsMark c := hsuffix c (by rw [hlist]; rfl)
        rw [List.takeWhile_cons_of_neg (by rcases hc with rfl | rfl <;> decide)]
  rw [beforeSuffix, String.toList_append, List.takeWhile_append_of_pos hkept, hcut, List.append_nil,
    String.ofList_toList]

/-- Before the names stand dots only. -/
theorem eq_dots_of_mem {lead : List String} (hlead : IsLead lead) {count : Nat} {piece : String}
    (hpiece : piece ∈ lead ++ List.replicate count "..") : piece = "." ∨ piece = ".." := by
  rcases List.mem_append.mp hpiece with hmem | hmem
  · rcases hlead with rfl | rfl
    · cases hmem
    · exact .inl (List.mem_singleton.mp hmem)
  · exact .inr (List.eq_of_mem_replicate hmem)

theorem notMem_dots {mark : Char} (hmark : mark ≠ '.') {piece : String}
    (hpiece : piece = "." ∨ piece = "..") : mark ∉ piece.toList := by
  rcases hpiece with rfl | rfl <;> simp [hmark]

section Pieces

variable {lead rest written : List String} {count : Nat}

/-- No mark stands in a name that is written escaped. -/
theorem not_isMark_of_mem_written (hwritten : List.Forall₂ IsWritten rest written) {piece : String}
    (hpiece : piece ∈ written) {c : Char} (hc : c ∈ piece.toList) : ¬IsMark c := by
  induction hwritten with
  | nil => cases hpiece
  | cons hescaped _ ih =>
      rcases List.mem_cons.mp hpiece with rfl | hpiece
      · rintro (rfl | rfl)
        · exact Text.notMem_of_escaped (by decide) (by decide) (by decide) hescaped hc
        · exact Text.notMem_of_escaped (by decide) (by decide) (by decide) hescaped hc
      · exact ih hpiece

theorem not_isMark_of_mem_join (hlead : IsLead lead)
    (hwritten : List.Forall₂ IsWritten rest written) :
    ∀ c ∈ (Text.join "/" (lead ++ List.replicate count ".." ++ written)).toList, ¬IsMark c := by
  intro c hmem
  rcases Text.mem_join hmem with hsep | ⟨piece, hpiece, hc⟩
  · have hslash : c = '/' := List.mem_singleton.mp hsep
    simp [IsMark, hslash]
  · rcases List.mem_append.mp hpiece with hfront | hback
    · have hdots := eq_dots_of_mem hlead hfront
      rintro (rfl | rfl)
      · exact notMem_dots (by decide) hdots hc
      · exact notMem_dots (by decide) hdots hc
    · exact not_isMark_of_mem_written hwritten hback hc

theorem percentDecode_join_written (hlead : IsLead lead)
    (hwritten : List.Forall₂ IsWritten rest written) :
    Text.percentDecode (Text.join "/" (lead ++ List.replicate count ".." ++ written)) =
      Text.join "/" (lead ++ List.replicate count ".." ++ rest) := by
  have hfront : List.Forall₂ (fun piece name : String => Text.DecodesTo piece.toList name.toList)
      (lead ++ List.replicate count "..") (lead ++ List.replicate count "..") := by
    rw [List.forall₂_same]
    intro piece hpiece
    exact Text.decodesTo_self (notMem_dots (by decide) (eq_dots_of_mem hlead hpiece))
  have hback : List.Forall₂ (fun piece name : String => Text.DecodesTo piece.toList name.toList)
      written rest := hwritten.flip.imp fun _ _ hescaped => Text.decodesTo_of_escaped hescaped
  have hdecodes := Text.decodesTo_join (List.rel_append hfront hback)
  have hpath := Text.percentDecode_of_decodesTo hdecodes
  rwa [String.ofList_toList, String.ofList_toList] at hpath

end Pieces

/-! ### Where the path leads -/

theorem isDown_of_isVisible {name : String} (hname : IsVisible name) : IsDown name :=
  ⟨hname.isIdle_eq, hname.ne_up⟩

theorem foldl_walkStep_lead {lead : List String} (hlead : IsLead lead) (segments : List String) :
    lead.foldl walkStep segments = segments := by
  rcases hlead with rfl | rfl
  · rfl
  · simp [walkStep]

/-- Cutting a joined path changes no walk; where there are no pieces, the one that results leads
nowhere. -/
theorem foldl_walkStep_cut_join {pieces : List String}
    (hfree : ∀ piece ∈ pieces, '/' ∉ piece.toList) (segments : List String) :
    (Text.cut '/' (Text.join "/" pieces)).foldl walkStep segments =
      pieces.foldl walkStep segments := by
  by_cases hne : pieces = []
  · subst hne
    simp [Text.join, Text.cut, Text.cutChars, walkStep]
  · have hcut : Text.cut '/' (Text.join "/" pieces) = pieces := Text.cut_join hne hfree
    rw [hcut]

theorem baseSegments_join_of_isName {names : List String}
    (hnames : ∀ name ∈ names, FileTree.IsName name) : baseSegments (Text.join "/" names) = names := by
  by_cases hne : names = []
  · subst hne
    decide
  · have hcut : Text.cut '/' (Text.join "/" names) = names :=
      Text.cut_join hne fun name hname => (hnames name hname).2
    rw [baseSegments, hcut, List.filter_eq_self]
    intro name hname
    simpa using (hnames name hname).1

theorem baseSegments_join {names : List String} (hnames : ∀ name ∈ names, IsVisible name) :
    baseSegments (Text.join "/" names) = names :=
  baseSegments_join_of_isName fun name hname => (hnames name hname).isName

/-- A relative path, taken from its directory, is the path of its file. -/
theorem normalize_of_leadsTo {folder route : List String} {link : String}
    (hfolder : ∀ name ∈ folder, IsVisible name) (hroute : ∀ name ∈ route, IsVisible name)
    (hto : LeadsTo folder route link) :
    normalize (Text.join "/" folder) (Text.percentDecode (beforeSuffix link)) =
      Text.join "/" route := by
  cases hto with
  | @intro common left rest lead written suffix hlead hwritten hsuffix =>
      have hleft : ∀ name ∈ left, IsVisible name :=
        fun name hname => hfolder name (List.mem_append_right common hname)
      have hrest : ∀ name ∈ rest, IsVisible name :=
        fun name hname => hroute name (List.mem_append_right common hname)
      have hfree : ∀ piece ∈ lead ++ List.replicate left.length ".." ++ rest,
          '/' ∉ piece.toList := by
        intro piece hpiece
        rcases List.mem_append.mp hpiece with hfront | hback
        · exact notMem_dots (by decide) (eq_dots_of_mem hlead hfront)
        · exact (hrest piece hback).slash_notMem
      have hpath : beforeSuffix
          (Text.join "/" (lead ++ List.replicate left.length ".." ++ written) ++ suffix) =
            Text.join "/" (lead ++ List.replicate left.length ".." ++ written) :=
        beforeSuffix_append (not_isMark_of_mem_join hlead hwritten) hsuffix
      rw [hpath, percentDecode_join_written hlead hwritten, normalize, baseSegments_join hfolder,
        foldl_walkStep_cut_join hfree, List.foldl_append, List.foldl_append,
        foldl_walkStep_lead hlead,
        foldl_walkStep_up fun name hname => isDown_of_isVisible (hleft name hname),
        foldl_walkStep_of_isDown fun name hname => isDown_of_isVisible (hrest name hname)]

/-! ### What is reported -/

section Reports

variable {r : Registry} {d e : Document} {link : String}

theorem eq_normalize_of_target? {target : String} (htarget : target? d link = some target) :
    target = normalize d.linkBase (Text.percentDecode (beforeSuffix link)) := by
  unfold target? at htarget
  dsimp only at htarget
  split at htarget
  · cases htarget
  · split at htarget
    · exact (Option.some.inj htarget).symm
    · cases htarget

theorem isSome_resolve? (hr : r.Consistent) (he : e ∈ r.all) (hfiled : e.IsFiled) :
    (resolve? r (Text.join "/" e.route)).isSome = true := by
  obtain ⟨id, hid⟩ := Option.isSome_iff_exists.mp (hr.isSome_findBySource? he hfiled.source_eq)
  rw [resolve?, hid]
  rfl

theorem checkLink_of_leadsTo (hr : r.Consistent) (he : e ∈ r.all) (hd : d.IsFiled)
    (hfiled : e.IsFiled) (hto : LeadsTo d.folder e.route link)
    (hslash : ∀ name ∈ d.folder, '\\' ∉ name.toList) : checkLink r d link = none := by
  unfold checkLink
  cases htarget : target? d link with
  | none => rfl
  | some target =>
      have hroute : target = Text.join "/" e.route := by
        rw [eq_normalize_of_target? htarget, hd.linkBase_eq hslash,
          normalize_of_leadsTo hd.visible hfiled.isRoute.visible hto]
      subst hroute
      exact if_pos (isSome_resolve? hr he hfiled)

theorem origin_of_checkLink {u : Unresolved} (hu : checkLink r d link = some u) :
    u.origin = .link d.id := by
  unfold checkLink at hu
  split at hu
  · cases hu
  · split at hu
    · cases hu
    · cases hu
      rfl

theorem mem_check_iff {u : Unresolved} :
    u ∈ check r ↔ ∃ d ∈ r.all, ∃ link ∈ d.links, checkLink r d link = some u := by
  simp only [check, List.mem_flatMap, List.mem_filterMap]

/-- **A link to the file of another document is not reported.** In a registry of the documents below
a directory, what is reported for a document comes from its other links, if no name on the way to
the document has a backslash in it. -/
theorem not_reported_of_leadsTo (w : Workspace) (root : Path) (hroot : w.root.ProperlyNamed)
    (hr : Registry.ofSource (documents w root) = .ok r) (hd : d ∈ r.all) (he : e ∈ r.all)
    (hto : LeadsTo d.folder e.route link)
    (hslash : ∀ name ∈ d.folder, '\\' ∉ name.toList) :
    checkLink r d link = none ∧
      ∀ u ∈ check r, u.origin = .link d.id →
        ∃ other ∈ d.links, other ≠ link ∧ checkLink r d other = some u := by
  obtain ⟨hconsistent, ds, hds, hmem⟩ := Registry.consistent_ofSource hr
  have hproper : ∀ tree, w.find root = .ok tree → tree.ProperlyNamed :=
    fun _ hfind => Workspace.properlyNamed_find hroot hfind
  have hfiled : ∀ document ∈ r.all, document.IsFiled :=
    fun document hdocument => isFiled_of_mem_documents hproper hds (hmem document hdocument)
  have hnone : checkLink r d link = none :=
    checkLink_of_leadsTo hconsistent he (hfiled d hd) (hfiled e he) hto hslash
  refine ⟨hnone, fun u hu horigin => ?_⟩
  obtain ⟨source, hsource, other, hother, hreport⟩ := mem_check_iff.mp hu
  have hid : source.id = d.id := by
    rw [origin_of_checkLink hreport] at horigin
    exact Origin.link.inj horigin
  have hsame : source = d := hconsistent.eq_of_id_eq hsource hd hid
  subst hsame
  refine ⟨other, hother, ?_, hreport⟩
  rintro rfl
  rw [hnone] at hreport
  cases hreport

end Reports

/-- Two directories, with a link from a file in one of them to a file in the other. -/
def twoFolders : Workspace where
  root := .directory [("docs", .directory
    [("c", .directory [("d.md", .file (Text.encodeUtf8 "# D\n[](../%C3%A9/e.md#t)"))]),
      ("é", .directory [("e.md", .file (Text.encodeUtf8 "# E"))])])]
  cwd := []
  env := []

theorem documents_twoFolders :
    documents twoFolders ⟨"docs"⟩ =
      .ok [⟨"c/d", "D", some ⟨"c/d.md"⟩, ["../%C3%A9/e.md#t"]⟩,
        ⟨"é/e", "E", some ⟨"é/e.md"⟩, []⟩] := by
  have hpaths : documentPaths twoFolders ⟨"docs"⟩ = ["c/d.md", "é/e.md"] :=
    documentPaths_eq rfl (by decide +kernel) (by decide)
  rw [documents, hpaths]
  decide +kernel

theorem leadsTo_twoFolders : LeadsTo ["c"] ["é", "e.md"] "../%C3%A9/e.md#t" := by
  have hbytes : Text.EscapedBytes (String.utf8EncodeChar 'é') "%C3%A9".toList :=
    .cons (h := 12) (l := 3) rfl rfl (.cons (h := 10) (l := 9) rfl rfl .nil)
  have hfolder : IsWritten "é" "%C3%A9" := .escape hbytes .nil
  have hname : IsWritten "e.md" "e.md" := Text.escaped_self rfl
  have hsuffix : IsSuffix "#t" := by simp [IsSuffix, IsMark]
  exact @LeadsTo.intro [] ["c"] ["é", "e.md"] [] ["%C3%A9", "e.md"] "#t" (.inl rfl)
    (.cons hfolder (.cons hname .nil)) hsuffix

/-- A link with a step up, an escaped name and a fragment. -/
theorem not_reported_of_leadsTo_sample :
    twoFolders.root.ProperlyNamed ∧
      ∃ r d e, Registry.ofSource (documents twoFolders ⟨"docs"⟩) = .ok r ∧ d ∈ r.all ∧ e ∈ r.all ∧
        "../%C3%A9/e.md#t" ∈ d.links ∧ LeadsTo d.folder e.route "../%C3%A9/e.md#t" ∧
        (∀ name ∈ d.folder, '\\' ∉ name.toList) ∧
        checkLink r d "../%C3%A9/e.md#t" = none ∧
        ∀ u ∈ check r, u.origin = .link d.id →
          ∃ other ∈ d.links, other ≠ "../%C3%A9/e.md#t" ∧ checkLink r d other = some u := by
  obtain ⟨r, hr, hall⟩ : ∃ r, Registry.ofSource (documents twoFolders ⟨"docs"⟩) = .ok r ∧
      r.all = [⟨"c/d", "D", some ⟨"c/d.md"⟩, ["../%C3%A9/e.md#t"]⟩,
        ⟨"é/e", "E", some ⟨"é/e.md"⟩, []⟩] := by
    rw [documents_twoFolders]
    exact ⟨_, rfl, by decide⟩
  have hroot : twoFolders.root.ProperlyNamed := by simp [twoFolders, FileTree.IsName]
  have hd : ⟨"c/d", "D", some ⟨"c/d.md"⟩, ["../%C3%A9/e.md#t"]⟩ ∈ r.all := by simp [hall]
  have he : ⟨"é/e", "E", some ⟨"é/e.md"⟩, []⟩ ∈ r.all := by simp [hall]
  exact ⟨hroot, r, _, _, hr, hd, he, by simp, leadsTo_twoFolders, by decide,
    not_reported_of_leadsTo twoFolders ⟨"docs"⟩ hroot hr hd he leadsTo_twoFolders (by decide)⟩

/-- Two files in a directory with a backslash in its name, one with a link to the other. -/
def backslashed : Workspace where
  root := .directory [("docs", .directory [("a\\b", .directory
    [("d.md", .file (Text.encodeUtf8 "# D\n[e](e.md)\n")),
      ("e.md", .file (Text.encodeUtf8 "# E\n"))])])]
  cwd := []
  env := []

/-- A link to a file in the same directory is reported, as the directory is read as two. -/
theorem reported_of_backslash :
    backslashed.root.ProperlyNamed ∧
      ∃ r d e, Registry.ofSource (documents backslashed ⟨"docs"⟩) = .ok r ∧ d ∈ r.all ∧ e ∈ r.all ∧
        "e.md" ∈ d.links ∧ LeadsTo d.folder e.route "e.md" ∧
        checkLink r d "e.md" = some ⟨"a/b/e", .link d.id⟩ ∧
        check r = [⟨"a/b/e", .link d.id⟩] := by
  have hdocuments : documents backslashed ⟨"docs"⟩ =
      .ok [⟨"a\\b/d", "D", some ⟨"a\\b/d.md"⟩, ["e.md"]⟩,
        ⟨"a\\b/e", "E", some ⟨"a\\b/e.md"⟩, []⟩] := by
    have hpaths : documentPaths backslashed ⟨"docs"⟩ = ["a\\b/d.md", "a\\b/e.md"] := by cbv
    rw [documents, hpaths]
    decide +kernel
  have hname : IsWritten "e.md" "e.md" := Text.escaped_self rfl
  have hsuffix : IsSuffix "" := by simp [IsSuffix]
  have hto : LeadsTo ["a\\b"] ["a\\b", "e.md"] "e.md" :=
    @LeadsTo.intro ["a\\b"] [] ["e.md"] [] ["e.md"] "" (.inl rfl) (.cons hname .nil) hsuffix
  rw [hdocuments]
  exact ⟨by simp [backslashed, FileTree.IsName], _, ⟨"a\\b/d", "D", some ⟨"a\\b/d.md"⟩, ["e.md"]⟩,
    ⟨"a\\b/e", "E", some ⟨"a\\b/e.md"⟩, []⟩, rfl, by decide, by decide, by decide, hto, by decide,
    by decide⟩

end Link

end Signpost
