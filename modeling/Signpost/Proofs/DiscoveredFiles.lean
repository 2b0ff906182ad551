import Signpost.Discovery
import Signpost.Proofs.FileTrees
import Signpost.Proofs.FirstFailure

/-!
# Where the documents were read from

A document is found at the end of a way of names from the docs directory none of which begins with
a dot. Its source is this way, written with slashes. Where names are names of files, so that none is
empty or holds a slash, the way can be read off the source again.
-/

namespace Signpost

namespace Discovery

/-- A name of a file that is not passed over. -/
structure IsVisible (name : String) : Prop where
  isName : FileTree.IsName name
  isHidden_eq : isHidden name = false

namespace IsVisible

variable {name : String}

theorem ne_empty (hname : IsVisible name) : name ≠ "" := hname.isName.1

theorem slash_notMem (hname : IsVisible name) : '/' ∉ name.toList := hname.isName.2

theorem ne_here (hname : IsVisible name) : name ≠ "." := by
  rintro rfl
  exact absurd hname.isHidden_eq (by decide)

theorem ne_up (hname : IsVisible name) : name ≠ ".." := by
  rintro rfl
  exact absurd hname.isHidden_eq (by decide)

theorem isIdle_eq (hname : IsVisible name) : Path.isIdle name = false := by
  simp [Path.isIdle, hname.ne_empty, hname.ne_here]

end IsVisible

theorem mem_documentsIn_iff {dir path : String} {entries : List (String × FileTree)} :
    path ∈ documentsIn dir entries ↔
      ∃ entry ∈ entries, isHidden entry.1 = false ∧ path ∈ documentsAt dir entry.1 entry.2 := by
  induction entries with
  | nil => simp [documentsIn]
  | cons entry entries ih =>
      obtain ⟨name, tree⟩ := entry
      rw [documentsIn, List.mem_append, ih]
      cases hhidden : isHidden name <;> simp [hhidden]

/-- What is found for an entry are the ways down from it that end in a document, without a hidden
name on them. -/
theorem mem_documentsAt_iff {tree : FileTree} {dir name path : String} :
    path ∈ documentsAt dir name tree ↔
      ∃ names content, tree.HasFile names content ∧ (∀ n ∈ names, isHidden n = false) ∧
        (∃ last ∈ (name :: names).getLast?, isDocument last = true) ∧
        path = dir ++ Text.join "/" (name :: names) := by
  induction tree using FileTree.induction generalizing dir name with
  | file text =>
      rw [documentsAt]
      cases hdocument : isDocument name <;> simp [hdocument, Text.join]
  | directory entries ih =>
      have hpath (entry : String × FileTree) (names : List String) :
          dir ++ name ++ "/" ++ Text.join "/" (entry.1 :: names) =
            dir ++ Text.join "/" (name :: entry.1 :: names) := by
        rw [Text.join_cons_of_ne_nil "/" name (List.cons_ne_nil _ _)]
        simp only [String.append_assoc]
      rw [documentsAt, mem_documentsIn_iff]
      constructor
      · rintro ⟨entry, hentry, hvisible, hbelow⟩
        obtain ⟨names, content, hfile, hnames, hlast, rfl⟩ := (ih entry hentry).mp hbelow
        refine ⟨entry.1 :: names, content, .inside hentry hfile, ?_, ?_, hpath entry names⟩
        · exact List.forall_mem_cons.mpr ⟨hvisible, hnames⟩
        · rwa [List.getLast?_cons_cons]
      · rintro ⟨names, content, hfile, hnames, hlast, rfl⟩
        obtain ⟨entry, hentry, rest, rfl, hbelow⟩ := FileTree.hasFile_directory_iff.mp hfile
        obtain ⟨hvisible, hrest⟩ := List.forall_mem_cons.mp hnames
        rw [List.getLast?_cons_cons] at hlast
        exact ⟨entry, hentry, hvisible,
          (ih entry hentry).mpr ⟨rest, content, hbelow, hrest, hlast, (hpath entry rest).symm⟩⟩

/-- The name of a Markdown file: one of the two endings, and something before it. -/
def IsMarkdownName (name : String) : Prop :=
  ∃ stem, stem ≠ "" ∧ (name = stem ++ ".md" ∨ name = stem ++ ".mdx")

theorem isHidden_eq_false_iff {name : String} :
    isHidden name = false ↔ name.toList.head? ≠ some '.' := by
  have hhidden : isHidden name = true ↔ ∃ rest, name.toList = '.' :: rest := Text.beginsWith_iff
  rw [← Bool.not_eq_true, hhidden]
  cases name.toList <;> simp

theorem isDocument_iff {name : String} : isDocument name = true ↔ IsMarkdownName name := by
  have hsplit (stem ext : String) :
      Text.cutLast '.' name = some (stem, ext) ↔ name = stem ++ "." ++ ext ∧ '.' ∉ ext.toList :=
    Text.cutLast_eq_some_iff
  constructor
  · intro hdocument
    unfold isDocument Path.splitName at hdocument
    cases hcut : Text.cutLast '.' name with
    | none => simp [hcut] at hdocument
    | some parts =>
        obtain ⟨stem, ext⟩ := parts
        obtain ⟨hname, -⟩ := (hsplit stem ext).mp hcut
        by_cases hstem : stem = ""
        · simp [hcut, hstem] at hdocument
        · have hext : ext = "md" ∨ ext = "mdx" := by
            simpa [hcut, hstem, extensions] using hdocument
          refine ⟨stem, hstem, hext.imp ?_ ?_⟩
          · rintro rfl
            rw [hname, String.append_assoc]
            rfl
          · rintro rfl
            rw [hname, String.append_assoc]
            rfl
  · rintro ⟨stem, hstem, hname⟩
    have hcut : ∃ ext, extensions.contains ext = true ∧
        Text.cutLast '.' name = some (stem, ext) := by
      rcases hname with rfl | rfl
      · refine ⟨"md", by decide, (hsplit stem "md").mpr ⟨?_, by decide⟩⟩
        rw [String.append_assoc]
        rfl
      · refine ⟨"mdx", by decide, (hsplit stem "mdx").mpr ⟨?_, by decide⟩⟩
        rw [String.append_assoc]
        rfl
    obtain ⟨ext, hext, hcut⟩ := hcut
    rw [isDocument, Path.splitName, hcut]
    dsimp only
    rw [if_neg hstem]
    exact hext

/-- The names lead to a Markdown file, and none of them begins with a dot. -/
structure IsDocumentAt (tree : FileTree) (names : List String) (content : List UInt8) : Prop where
  hasFile : tree.HasFile names content
  not_hidden : ∀ name ∈ names, name.toList.head? ≠ some '.'
  isMarkdown : ∃ last ∈ names.getLast?, IsMarkdownName last

theorem mem_documentPaths_iff {w : Workspace} {root : Path} {path : String} :
    path ∈ documentPaths w root ↔
      ∃ tree names content, w.find root = .ok tree ∧ IsDocumentAt tree names content ∧
        path = Text.join "/" names := by
  unfold documentPaths
  split
  · rename_i entries hfind
    rw [List.mem_mergeSort, mem_documentsIn_iff]
    simp only [mem_documentsAt_iff, isHidden_eq_false_iff, isDocument_iff]
    constructor
    · rintro ⟨entry, hentry, hvisible, names, content, hfile, hnames, hlast, rfl⟩
      have hhidden : ∀ name ∈ entry.1 :: names, name.toList.head? ≠ some '.' :=
        List.forall_mem_cons.mpr ⟨hvisible, hnames⟩
      exact ⟨_, _, content, hfind, ⟨.inside hentry hfile, hhidden, hlast⟩, String.empty_append⟩
    · rintro ⟨tree, names, content, hother, ⟨hfile, hhidden, hlast⟩, rfl⟩
      rw [hfind, Except.ok.injEq] at hother
      subst hother
      obtain ⟨entry, hentry, rest, rfl, hbelow⟩ := FileTree.hasFile_directory_iff.mp hfile
      obtain ⟨hvisible, hrest⟩ := List.forall_mem_cons.mp hhidden
      exact ⟨entry, hentry, hvisible, rest, content, hbelow, hrest, hlast,
        String.empty_append.symm⟩
  · rename_i hnone
    constructor
    · intro hmem
      cases hmem
    · rintro ⟨tree, names, content, hfind, ⟨hfile, -, last, hlast, -⟩, rfl⟩
      cases tree with
      | file text =>
          obtain ⟨rfl, -⟩ := FileTree.hasFile_file_iff.mp hfile
          cases hlast
      | directory entries => exact absurd hfind (hnone entries)

end Discovery

namespace Path

/-- These are the pieces of a relative path: there are some, none is idle, and none has a slash. -/
structure ArePieces (names : List String) : Prop where
  ne_nil : names ≠ []
  isIdle_eq : ∀ name ∈ names, isIdle name = false
  slash_notMem : ∀ name ∈ names, '/' ∉ name.toList

theorem ArePieces.cut_join_eq {names : List String} (hnames : ArePieces names) :
    Text.cut '/' (Text.join "/" names) = names :=
  Text.cut_join hnames.ne_nil hnames.slash_notMem

theorem ArePieces.pieces_eq {names : List String} (hnames : ArePieces names) :
    pieces ⟨Text.join "/" names⟩ = ("", names) := by
  unfold pieces
  rw [hnames.cut_join_eq]
  split
  · exact absurd (hnames.isIdle_eq "" List.mem_cons_self) (by decide)
  · exact absurd (hnames.isIdle_eq "." List.mem_cons_self) (by decide)
  · rfl

theorem componentOf_injective {piece other : String}
    (hsame : componentOf piece = componentOf other) : piece = other := by
  unfold componentOf at hsame
  split at hsame <;> split at hsame <;> simp_all

/-- Two paths with their pieces written out are the same only if the pieces are. -/
theorem ArePieces.same_join_iff {names others : List String} (hnames : ArePieces names)
    (hothers : ArePieces others) :
    same ⟨Text.join "/" names⟩ ⟨Text.join "/" others⟩ = true ↔ names = others := by
  have hcomponents {list : List String} (hlist : ArePieces list) :
      components ⟨Text.join "/" list⟩ = list.map componentOf := by
    have hall : list.filter (fun piece => !isIdle piece) = list := by
      rw [List.filter_eq_self]
      intro piece hpiece
      rw [hlist.isIdle_eq piece hpiece]
      rfl
    rw [components, hlist.pieces_eq]
    simp [hall]
  rw [same, hcomponents hnames, hcomponents hothers, beq_iff_eq]
  constructor
  · intro hmaps
    exact List.map_injective_iff.mpr (fun _ _ hsame => componentOf_injective hsame) hmaps
  · rintro rfl
    rfl

theorem dropIdleEnd_eq_self {names : List String} (hnames : ∀ name ∈ names, isIdle name = false) :
    dropIdleEnd names = names := by
  have hdrop : names.reverse.dropWhile isIdle = names.reverse := by
    cases hreverse : names.reverse with
    | nil => rfl
    | cons last front =>
        have hlast : last ∈ names := List.mem_reverse.mp (hreverse ▸ List.mem_cons_self)
        rw [List.dropWhile_cons_of_neg (by simp [hnames last hlast])]
  rw [dropIdleEnd, hdrop, List.reverse_reverse]

end Path

namespace Discovery

/-- The names lead from the docs directory to a file that is not passed over. -/
structure IsRoute (names : List String) : Prop where
  ne_nil : names ≠ []
  visible : ∀ name ∈ names, IsVisible name

/-- The pieces of a path that was found are its names. -/
theorem IsRoute.arePieces {names : List String} (hroute : IsRoute names) :
    Path.ArePieces names where
  ne_nil := hroute.ne_nil
  isIdle_eq := fun name hname => (hroute.visible name hname).isIdle_eq
  slash_notMem := fun name hname => (hroute.visible name hname).slash_notMem

/-- The parent of a path that was found is the path of its directory. -/
theorem IsRoute.parent?_eq {names : List String} (hroute : IsRoute names) :
    Path.parent? ⟨Text.join "/" names⟩ = some ⟨Text.join "/" names.dropLast⟩ := by
  have hall := hroute.arePieces.isIdle_eq
  have hdropLast : ∀ name ∈ names.dropLast, Path.isIdle name = false :=
    fun name hname => hall name (List.dropLast_subset names hname)
  rw [Path.parent?, hroute.arePieces.pieces_eq]
  dsimp only
  rw [Path.dropIdleEnd_eq_self hall]
  split
  · exact absurd rfl hroute.ne_nil
  · rw [Path.dropIdleEnd_eq_self hdropLast, Path.ofPieces]
    simp

theorem IsDocumentAt.isRoute {tree : FileTree} {names : List String} {content : List UInt8}
    (hdocument : IsDocumentAt tree names content) (hproper : tree.ProperlyNamed) :
    IsRoute names where
  ne_nil := by
    rintro rfl
    obtain ⟨last, hlast, -⟩ := hdocument.isMarkdown
    cases hlast
  visible := fun name hname => ⟨hdocument.hasFile.isName hproper name hname,
    isHidden_eq_false_iff.mpr (hdocument.not_hidden name hname)⟩

theorem exists_route_of_mem_documentPaths {w : Workspace} {root : Path}
    (hproper : ∀ tree, w.find root = .ok tree → tree.ProperlyNamed) {path : String}
    (hpath : path ∈ documentPaths w root) :
    ∃ names, IsRoute names ∧ path = Text.join "/" names := by
  obtain ⟨tree, names, content, hfind, hdocument, rfl⟩ := mem_documentPaths_iff.mp hpath
  exact ⟨names, hdocument.isRoute (hproper tree hfind), rfl⟩

/-- What is found in a directory needs no sorting if it is in order already. -/
theorem documentPaths_eq {w : Workspace} {root : Path} {entries : List (String × FileTree)}
    {paths : List String} (hfind : w.find root = .ok (.directory entries))
    (hpaths : documentsIn "" entries = paths)
    (hsorted : paths.Pairwise fun path other => decide (path ≤ other) = true) :
    documentPaths w root = paths := by
  rw [documentPaths, hfind]
  dsimp only
  rw [hpaths]
  exact List.mergeSort_of_pairwise hsorted

/-- The default id is the path without the extension of its last name. -/
theorem idOfPath_join {stem ext : String} (hdot : '.' ∉ ext.toList) (folder : List String) :
    idOfPath (Text.join "/" (folder ++ [stem ++ ("." ++ ext)])) =
      Text.join "/" (folder ++ [stem]) := by
  have hcut : Text.cutLast '.' (Text.join "/" (folder ++ [stem ++ ("." ++ ext)])) =
      some (Text.join "/" (folder ++ [stem]), ext) := by
    rw [Text.cutLast_eq_some_iff, Text.join_append_tail, String.append_assoc]
    exact ⟨rfl, hdot⟩
  rw [idOfPath, hcut]

/-- The last of the names is that of the document, with an extension that its default id is without. -/
theorem IsDocumentAt.exists_stem {tree : FileTree} {names : List String} {content : List UInt8}
    (hdocument : IsDocumentAt tree names content) :
    ∃ folder stem, ∃ ext ∈ extensions, names = folder ++ [stem ++ ("." ++ ext)] ∧
      idOfPath (Text.join "/" names) = Text.join "/" (folder ++ [stem]) := by
  obtain ⟨last, hlast, stem, -, hname⟩ := hdocument.isMarkdown
  obtain ⟨folder, rfl⟩ := List.getLast?_eq_some_iff.mp hlast
  obtain ⟨ext, hext, hdot, rfl⟩ :
      ∃ ext ∈ extensions, '.' ∉ ext.toList ∧ last = stem ++ ("." ++ ext) := by
    rcases hname with rfl | rfl
    · exact ⟨"md", by decide, by decide, rfl⟩
    · exact ⟨"mdx", by decide, by decide, rfl⟩
  exact ⟨folder, stem, ext, hext, rfl, idOfPath_join hdot folder⟩

/-- The path of a document is its default id with one of the extensions. -/
theorem exists_extension_of_mem_documentPaths {w : Workspace} {root : Path} {path : String}
    (hpath : path ∈ documentPaths w root) :
    ∃ ext ∈ extensions, path = idOfPath path ++ "." ++ ext := by
  obtain ⟨tree, names, content, -, hdocument, rfl⟩ := mem_documentPaths_iff.mp hpath
  obtain ⟨folder, stem, ext, hext, hnames, hid⟩ := hdocument.exists_stem
  refine ⟨ext, hext, ?_⟩
  rw [hid, hnames, Text.join_append_tail, String.append_assoc]

theorem forall₂_of_documents {w : Workspace} {root : Path} {ds : List Document}
    (hds : documents w root = .ok ds) :
    List.Forall₂ (fun path d => readDocument w root path = .ok d) (documentPaths w root) ds :=
  mapM_eq_ok_iff.mp hds

/-- The id that the front matter of a text gives, if it gives one. -/
def givenId? (text : String) : Option String :=
  ((FrontMatter.split text).1.bind FrontMatter.ofText?).bind (·.id)

/-- The id of a document is that of its path, with what the front matter says of it. -/
theorem eq_of_documentOf {path text : String} {d : Document}
    (hdocument : documentOf path text = .ok d) :
    d.source = some ⟨path⟩ ∧ idOf path (givenId? text) = .ok d.id := by
  have hlast {front : Option String} {title : String} {links : List String}
      (hok : (do return { id := ← idOf path front, title, source := some ⟨path⟩, links } :
        Except FrontMatterFault Document) = .ok d) :
      d.source = some ⟨path⟩ ∧ idOf path front = .ok d.id := by
    obtain ⟨id, hid, hreturn⟩ := bind_eq_ok_iff.mp hok
    cases hreturn
    exact ⟨rfl, hid⟩
  unfold documentOf at hdocument
  unfold givenId?
  dsimp only at hdocument
  split at hdocument
  · rename_i front hfront
    obtain ⟨yaml, hyaml, hread⟩ := Option.map_eq_some_iff.mp hfront
    rw [hyaml, Option.bind_some, hread, Option.bind_some]
    exact hlast hdocument
  · cases hdocument
  · rename_i hfront
    rw [Option.map_eq_none_iff.mp hfront]
    exact hlast hdocument

theorem readDocument_eq_ok_iff {w : Workspace} {root : Path} {path : String} {d : Document} :
    readDocument w root path = .ok d ↔
      ∃ text, w.readText (root.join ⟨path⟩) = .ok text ∧ documentOf path text = .ok d := by
  simp only [readDocument]
  cases htext : w.readText (root.join ⟨path⟩) with
  | error e => simp
  | ok text => simp [mapError_eq_ok_iff]

theorem documentOf_of_readDocument {w : Workspace} {root : Path} {path : String} {d : Document}
    (hread : readDocument w root path = .ok d) : ∃ text, documentOf path text = .ok d := by
  obtain ⟨text, -, hdocument⟩ := readDocument_eq_ok_iff.mp hread
  exact ⟨text, hdocument⟩

theorem source_of_readDocument {w : Workspace} {root : Path} {path : String} {d : Document}
    (hread : readDocument w root path = .ok d) : d.source = some ⟨path⟩ := by
  obtain ⟨text, hdocument⟩ := documentOf_of_readDocument hread
  exact (eq_of_documentOf hdocument).1

end Discovery

namespace Document

/-- The names on the way from the docs directory to the file of a document. -/
def route (d : Document) : List String :=
  match d.source with
  | some path => Text.cut '/' path.text
  | none => []

/-- The names on the way to the directory of the file. -/
def folder (d : Document) : List String :=
  d.route.dropLast

/-- The document was read from a file that is not passed over. -/
structure IsFiled (d : Document) : Prop where
  isRoute : Discovery.IsRoute d.route
  source_eq : d.source = some ⟨Text.join "/" d.route⟩

theorem isFiled_of_source {d : Document} {names : List String} (hroute : Discovery.IsRoute names)
    (hsource : d.source = some ⟨Text.join "/" names⟩) : d.IsFiled := by
  have hnames : d.route = names := by
    rw [route, hsource]
    exact hroute.arePieces.cut_join_eq
  exact ⟨hnames ▸ hroute, hnames ▸ hsource⟩

theorem IsFiled.visible {d : Document} (hd : d.IsFiled) :
    ∀ name ∈ d.folder, Discovery.IsVisible name :=
  fun name hname => hd.isRoute.visible name (List.dropLast_subset d.route hname)

/-- Without backslashes, links are relative to the directory of the file. -/
theorem IsFiled.linkBase_eq {d : Document} (hd : d.IsFiled)
    (hslash : ∀ name ∈ d.folder, '\\' ∉ name.toList) : d.linkBase = Text.join "/" d.folder := by
  have hchar : ∀ c ∈ (Text.join "/" d.folder).toList, (if c = '\\' then '/' else c) = c := by
    intro c hc
    apply if_neg
    rintro rfl
    rcases Text.mem_join hc with hsep | ⟨name, hname, hmem⟩
    · exact absurd hsep (by decide)
    · exact hslash name hname hmem
  rw [linkBase, hd.source_eq, Option.bind_some, hd.isRoute.parent?_eq]
  dsimp only
  rw [← folder, List.map_congr_left hchar, List.map_id', String.ofList_toList]

end Document

namespace Discovery

/-- Every document that is found was read from a file that is not passed over. -/
theorem isFiled_of_mem_documents {w : Workspace} {root : Path}
    (hproper : ∀ tree, w.find root = .ok tree → tree.ProperlyNamed) {ds : List Document}
    (hds : documents w root = .ok ds) {d : Document} (hd : d ∈ ds) : d.IsFiled := by
  obtain ⟨path, hpath, hread⟩ := exists_of_mem_of_forall₂ (forall₂_of_documents hds) hd
  obtain ⟨names, hnames, rfl⟩ := exists_route_of_mem_documentPaths hproper hpath
  exact Document.isFiled_of_source hnames (source_of_readDocument hread)

end Discovery

end Signpost
