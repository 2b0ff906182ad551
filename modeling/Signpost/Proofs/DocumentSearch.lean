import Signpost.Proofs.DiscoveredFiles
import Signpost.Proofs.FilledRegistry
import Mathlib.Data.List.Sort
import Mathlib.Data.String.Basic

/-!
# The search for documents

The search finds every file that is a document, and each once. Its results are sorted, so they tell
nothing about the order in which the directories list their entries. The files are read in this
order, and the first that cannot be read decides the failure; then they are registered in this
order, and the first id that has occurred before does.
-/

namespace Signpost

namespace Path

theorem ArePieces.isAbsolute_eq {names : List String} (hnames : ArePieces names) :
    isAbsolute ⟨Text.join "/" names⟩ = false := by
  rw [← Bool.not_eq_true]
  intro habsolute
  have hcut := hnames.cut_join_eq
  cases htext : (Text.join "/" names).toList with
  | nil => simp [isAbsolute, htext] at habsolute
  | cons c rest =>
      have hslash : c = '/' := by simpa [isAbsolute, htext] using habsolute
      rw [Text.cut, htext, Text.cutChars, if_pos hslash, List.map_cons] at hcut
      have hempty : "" ∈ names := hcut ▸ List.mem_cons_self
      exact absurd (hnames.isIdle_eq "" hempty) (by decide)

/-- Joining a relative path puts its pieces behind those of the path before it, in place of an idle
piece that may be the last one there. -/
theorem ArePieces.exists_cut_join {names : List String} (hnames : ArePieces names) {path : Path}
    (hne : path.text ≠ "") :
    ∃ front idle, Text.cut '/' path.text = front ++ idle ∧
      (∀ piece ∈ idle, isIdle piece = true) ∧
      Text.cut '/' (path.join ⟨Text.join "/" names⟩).text = front ++ names := by
  have hjoin : path.join ⟨Text.join "/" names⟩ =
      if path.text = "" || Text.endsWith path.text "/" then ⟨path.text ++ Text.join "/" names⟩
      else ⟨path.text ++ "/" ++ Text.join "/" names⟩ := by
    simp [join, hnames.isAbsolute_eq]
  have hslash : String.singleton '/' = "/" := rfl
  cases hends : Text.endsWith path.text "/" with
  | true =>
      obtain ⟨front, hfront⟩ := Text.endsWith_iff.mp hends
      refine ⟨Text.cut '/' front, [""], ?_, by simp [isIdle], ?_⟩
      · have hcut := Text.cut_append_singleton '/' front ""
        rw [hslash, String.append_empty] at hcut
        rw [hfront, hcut]
        rfl
      · have hcut := Text.cut_append_singleton '/' front (Text.join "/" names)
        rw [hslash] at hcut
        rw [hjoin, hends, Bool.or_true, if_pos rfl, hfront, hcut, hnames.cut_join_eq]
  | false =>
      refine ⟨Text.cut '/' path.text, [], by simp, by simp, ?_⟩
      have hcut := Text.cut_append_singleton '/' path.text (Text.join "/" names)
      rw [hslash] at hcut
      simp [hjoin, hends, hne, hcut, hnames.cut_join_eq]

theorem ArePieces.isAbsolute_join {names : List String} (hnames : ArePieces names) {path : Path}
    (hne : path.text ≠ "") :
    (path.join ⟨Text.join "/" names⟩).isAbsolute = path.isAbsolute := by
  have hlist : path.text.toList ≠ [] := by simpa using hne
  obtain ⟨c, rest, hc⟩ := List.exists_cons_of_ne_nil hlist
  rw [join, hnames.isAbsolute_eq]
  split
  · contradiction
  · split <;> simp [isAbsolute, String.toList_append, hc]

theorem join_ne_empty {path other : Path} (hother : other.text ≠ "") :
    (path.join other).text ≠ "" := by
  unfold join
  split
  · exact hother
  · split
    · simp [hother]
    · simp [hother]

end Path

namespace Discovery

variable {w : Workspace} {root : Path} {tree : FileTree} {names : List String}
  {content : List UInt8}

/-! ### Each once, and sorted -/

/-- What is found for two entries is different if their names are. -/
theorem eq_of_mem_documentsAt {other : FileTree} {dir first second path : String}
    (htree : tree.ProperlyNamed) (hother : other.ProperlyNamed) (hfirst : FileTree.IsName first)
    (hsecond : FileTree.IsName second) (hpath : path ∈ documentsAt dir first tree)
    (hsame : path ∈ documentsAt dir second other) : first = second := by
  obtain ⟨names, _, hfile, -, -, rfl⟩ := mem_documentsAt_iff.mp hpath
  obtain ⟨others, _, hfiles, -, -, heq⟩ := mem_documentsAt_iff.mp hsame
  have hnames : ∀ name ∈ first :: names, '/' ∉ name.toList :=
    List.forall_mem_cons.mpr ⟨hfirst.2, fun name hname => (hfile.isName htree name hname).2⟩
  have hothers : ∀ name ∈ second :: others, '/' ∉ name.toList :=
    List.forall_mem_cons.mpr ⟨hsecond.2, fun name hname => (hfiles.isName hother name hname).2⟩
  have hjoin := congrArg (Text.cut '/') ((String.append_right_inj dir).mp heq)
  have hcut : first :: names = second :: others :=
    calc first :: names
        = Text.cut '/' (Text.join "/" (first :: names)) :=
          (Text.cut_join (List.cons_ne_nil _ _) hnames).symm
      _ = Text.cut '/' (Text.join "/" (second :: others)) := hjoin
      _ = second :: others := Text.cut_join (List.cons_ne_nil _ _) hothers
  exact (List.cons.inj hcut).1

theorem nodup_documentsIn {entries : List (String × FileTree)}
    (hproper : ∀ entry ∈ entries, FileTree.IsName entry.1 ∧ entry.2.ProperlyNamed)
    (hnodup : (entries.map (·.1)).Nodup)
    (hbelow : ∀ entry ∈ entries, ∀ dir, (documentsAt dir entry.1 entry.2).Nodup) (dir : String) :
    (documentsIn dir entries).Nodup := by
  induction entries with
  | nil => simp [documentsIn]
  | cons entry entries ih =>
      obtain ⟨name, tree⟩ := entry
      obtain ⟨⟨hname, htree⟩, hrest⟩ := List.forall_mem_cons.mp hproper
      obtain ⟨hfirst, hothers⟩ := List.forall_mem_cons.mp hbelow
      rw [List.map_cons, List.nodup_cons] at hnodup
      rw [documentsIn, List.nodup_append]
      refine ⟨?_, ih hrest hnodup.2 hothers, ?_⟩
      · split
        · exact List.nodup_nil
        · exact hfirst dir
      · rintro path hpath _ hother rfl
        split at hpath
        · cases hpath
        · obtain ⟨entry, hentry, -, hmem⟩ := mem_documentsIn_iff.mp hother
          obtain ⟨hentryName, hentryTree⟩ := hrest entry hentry
          have hsame : name = entry.1 :=
            eq_of_mem_documentsAt htree hentryTree hname hentryName hpath hmem
          exact hnodup.1 (List.mem_map.mpr ⟨entry, hentry, hsame.symm⟩)

theorem nodup_documentsAt (hproper : tree.ProperlyNamed) (hdistinct : tree.Distinct)
    (dir name : String) : (documentsAt dir name tree).Nodup := by
  induction tree using FileTree.induction generalizing dir name with
  | file text =>
      rw [documentsAt]
      split <;> simp
  | directory entries ih =>
      rw [FileTree.properlyNamed_directory_iff] at hproper
      obtain ⟨hnodup, hbelow⟩ := FileTree.distinct_directory_iff.mp hdistinct
      rw [documentsAt]
      apply nodup_documentsIn hproper hnodup
      intro entry hentry dir
      exact ih entry hentry (hproper entry hentry).2 (hbelow entry hentry) dir entry.1

theorem pairwise_documentPaths
    (hproper : ∀ tree, w.find root = .ok tree → tree.ProperlyNamed ∧ tree.Distinct) :
    (documentPaths w root).Pairwise (· < ·) := by
  unfold documentPaths
  split
  · rename_i entries hfind
    obtain ⟨hproper, hdistinct⟩ := hproper _ hfind
    rw [FileTree.properlyNamed_directory_iff] at hproper
    obtain ⟨hnodup, hbelow⟩ := FileTree.distinct_directory_iff.mp hdistinct
    have honce : (documentsIn "" entries).Nodup :=
      nodup_documentsIn hproper hnodup (fun entry hentry dir =>
        nodup_documentsAt (hproper entry hentry).2 (hbelow entry hentry) dir entry.1) ""
    have hsorted : ((documentsIn "" entries).mergeSort fun a b => decide (a ≤ b)).Pairwise
        fun a b => decide (a ≤ b) = true := by
      apply List.pairwise_mergeSort
      · intro a b c hab hbc
        exact decide_eq_true (String.le_trans (of_decide_eq_true hab) (of_decide_eq_true hbc))
      · intro a b
        simpa using String.le_total a b
    have hdifferent := (List.mergeSort_perm (documentsIn "" entries)
      fun a b => decide (a ≤ b)).nodup_iff.mpr honce
    apply (hsorted.and hdifferent).imp
    rintro a b ⟨hle, hne⟩
    exact lt_of_le_of_ne (of_decide_eq_true hle) hne
  · exact List.Pairwise.nil

/-! ### Any order of the entries -/

theorem isDocumentAt_iff_of_rearranged {other : FileTree} (hsame : tree.Rearranged other) :
    IsDocumentAt tree names content ↔ IsDocumentAt other names content :=
  ⟨fun ⟨hfile, hvisible, hmarkdown⟩ => ⟨hsame.hasFile_iff.mp hfile, hvisible, hmarkdown⟩,
    fun ⟨hfile, hvisible, hmarkdown⟩ => ⟨hsame.hasFile_iff.mpr hfile, hvisible, hmarkdown⟩⟩

theorem documentPaths_of_rearranged {w' : Workspace} {other : FileTree}
    (hsorted : (documentPaths w root).Pairwise (· < ·))
    (hsorted' : (documentPaths w' root).Pairwise (· < ·)) (hfind : w.find root = .ok tree)
    (hfind' : w'.find root = .ok other) (hsame : tree.Rearranged other) :
    documentPaths w' root = documentPaths w root := by
  apply hsorted'.eq_of_mem_iff hsorted
  intro path
  rw [mem_documentPaths_iff, mem_documentPaths_iff]
  simp only [hfind, hfind', Except.ok.injEq, exists_and_left, exists_eq_left',
    isDocumentAt_iff_of_rearranged hsame]

/-- The file at the end of the names is the one that is read. -/
theorem find_join (hproper : tree.ProperlyNamed) (hdistinct : tree.Distinct)
    (hfind : w.find root = .ok tree) (hdocument : IsDocumentAt tree names content) :
    w.find (root.join ⟨Text.join "/" names⟩) = .ok (.file content) := by
  have hroute := hdocument.isRoute hproper
  have hpieces := hroute.arePieces
  obtain ⟨hne, first, last, hstart, hwalk, rfl⟩ := Workspace.find_eq_ok_iff.mp hfind
  obtain ⟨front, idle, hcut, hidle, hjoin⟩ := hpieces.exists_cut_join hne
  rw [hcut, Workspace.Cursor.walk_append_eq_ok_iff] at hwalk
  obtain ⟨middle, hfront, hstay⟩ := hwalk
  have hsame : last = middle := Workspace.Cursor.eq_of_walk_idle hidle hstay
  subst hsame
  have hnames : ∀ name ∈ names, Path.isIdle name = false ∧ name ≠ ".." := fun name hname =>
    ⟨(hroute.visible name hname).isIdle_eq, (hroute.visible name hname).ne_up⟩
  obtain ⟨target, hdown, hhere⟩ :=
    Workspace.Cursor.walk_of_hasFile hdocument.hasFile hdistinct hnames
  rw [Workspace.find_eq_ok_iff]
  refine ⟨Path.join_ne_empty ?_, first, target, ?_, ?_, hhere⟩
  · intro hempty
    have hcutNames := hpieces.cut_join_eq
    dsimp only at hempty
    rw [hempty] at hcutNames
    exact absurd (hpieces.isIdle_eq "" (hcutNames ▸ List.mem_cons_self)) (by decide)
  · rw [← hstart, Workspace.start, Workspace.start, hpieces.isAbsolute_join hne]
  · rw [hjoin, Workspace.Cursor.walk_append_eq_ok_iff]
    exact ⟨last, hfront, hdown⟩

theorem readDocument_of_isDocumentAt (hproper : tree.ProperlyNamed) (hdistinct : tree.Distinct)
    (hfind : w.find root = .ok tree) (hdocument : IsDocumentAt tree names content) :
    readDocument w root (Text.join "/" names) =
      match Text.decodeStrict content with
      | some text => (documentOf (Text.join "/" names) text).mapError fun fault =>
          .frontMatter (root.join ⟨Text.join "/" names⟩) fault.message
      | none => .error (.io (root.join ⟨Text.join "/" names⟩) ReadError.notText.message) := by
  have hread := find_join hproper hdistinct hfind hdocument
  cases htext : Text.decodeStrict content <;>
    simp [readDocument, Workspace.readText, hread, htext]

/-- The documents do not depend on the order in which the directories list their entries. -/
theorem documents_of_rearranged {w' : Workspace} {other : FileTree} (hproper : tree.ProperlyNamed)
    (hdistinct : tree.Distinct) (hfind : w.find root = .ok tree)
    (hfind' : w'.find root = .ok other) (hsame : tree.Rearranged other) :
    documentPaths w' root = documentPaths w root ∧ documents w' root = documents w root := by
  have hproper' := hsame.properlyNamed hproper
  have hdistinct' := hsame.distinct hdistinct
  have hpaths : documentPaths w' root = documentPaths w root := by
    refine documentPaths_of_rearranged (pairwise_documentPaths ?_) (pairwise_documentPaths ?_) hfind
      hfind' hsame
    · intro found hfound
      rw [hfind, Except.ok.injEq] at hfound
      exact hfound ▸ ⟨hproper, hdistinct⟩
    · intro found hfound
      rw [hfind', Except.ok.injEq] at hfound
      exact hfound ▸ ⟨hproper', hdistinct'⟩
  refine ⟨hpaths, ?_⟩
  rw [documents, documents, hpaths]
  apply mapM_congr
  intro path hpath
  obtain ⟨found, names, content, hfound, hdocument, rfl⟩ := mem_documentPaths_iff.mp hpath
  rw [hfind, Except.ok.injEq] at hfound
  subst hfound
  have hdocument' := (isDocumentAt_iff_of_rearranged hsame).mp hdocument
  rw [readDocument_of_isDocumentAt hproper' hdistinct' hfind' hdocument',
    readDocument_of_isDocumentAt hproper hdistinct hfind hdocument]

/-! ### What becomes of the files -/

theorem sources_of_documents {ds : List Document} (hds : documents w root = .ok ds) :
    ds.map (·.source) = (documentPaths w root).map fun path => some ⟨path⟩ := by
  have hread := forall₂_of_documents hds
  clear hds
  generalize documentPaths w root = paths at hread ⊢
  induction hread with
  | nil => rfl
  | cons hfirst _ ih => rw [List.map_cons, List.map_cons, ih, source_of_readDocument hfirst]

/-- No two documents were read from one file. -/
theorem nodup_sources_of_documents
    (hproper : ∀ tree, w.find root = .ok tree → tree.ProperlyNamed ∧ tree.Distinct)
    {ds : List Document} (hds : documents w root = .ok ds) : (ds.map (·.source)).Nodup := by
  have honce : (documentPaths w root).Nodup := (pairwise_documentPaths hproper).imp ne_of_lt
  rw [sources_of_documents hds]
  exact honce.map fun first second hsame => by simpa using hsame

theorem isFiled_of_documents
    (hproper : ∀ tree, w.find root = .ok tree → tree.ProperlyNamed ∧ tree.Distinct)
    {ds : List Document} (hds : documents w root = .ok ds) : ∀ d ∈ ds, d.IsFiled :=
  fun _ hd => isFiled_of_mem_documents (fun tree hfind => (hproper tree hfind).1) hds hd

/-- Registered documents are found by their files. -/
theorem findBySource?_of_ofDocuments {ds : List Document} {r : Registry}
    (hregister : Registry.ofDocuments ds = .ok r) (hfiled : ∀ d ∈ ds, d.IsFiled)
    (hsources : (ds.map (·.source)).Nodup) {d : Document} (hd : d ∈ ds) {path : Path}
    (hsource : d.source = some path) : r.findBySource? path = some d.id := by
  have hconsistent := Registry.consistent_empty.registerAll hregister
  have hfound := hconsistent.isSome_findBySource?
    ((Registry.mem_all_iff_of_ofDocuments hregister).mpr hd) hsource
  obtain ⟨id, hid⟩ := Option.isSome_iff_exists.mp hfound
  obtain ⟨⟨other, _⟩, hentry, rfl⟩ := Option.map_eq_some_iff.mp hid
  have hsame : other.same path = true := by simpa using List.find?_some hentry
  obtain ⟨e, he, hother, rfl⟩ :=
    (Registry.mem_sources_iff_of_ofDocuments hregister).mp (List.mem_of_find?_eq_some hentry)
  have hroutes : e.route = d.route := by
    rw [hsource.symm.trans (hfiled d hd).source_eq |> Option.some.inj,
      hother.symm.trans (hfiled e he).source_eq |> Option.some.inj] at hsame
    exact ((hfiled e he).isRoute.arePieces.same_join_iff (hfiled d hd).isRoute.arePieces).mp hsame
  have hsources' : e.source = d.source := by
    rw [(hfiled e he).source_eq, (hfiled d hd).source_eq, hroutes]
  rw [hid, List.inj_on_of_nodup_map hsources he hd hsources']

/-- Either the documents are registered, or the first one whose id has occurred is refused. -/
theorem ofDocuments_of_documents
    (hproper : ∀ tree, w.find root = .ok tree → tree.ProperlyNamed ∧ tree.Distinct)
    {ds : List Document} (hds : documents w root = .ok ds) :
    (∃ r, Registry.ofDocuments ds = .ok r ∧ (ds.map (·.id)).Nodup ∧ (∀ d, d ∈ r.all ↔ d ∈ ds) ∧
      ∀ d ∈ ds, r.get? d.id = some d ∧
        ∀ path, d.source = some path → r.findBySource? path = some d.id) ∨
    ∃ d, Registry.FirstRepeated ds d ∧ Registry.ofDocuments ds = .error (.duplicateId d.id) := by
  cases hregister : Registry.ofDocuments ds with
  | error cause =>
      obtain ⟨d, hfirst, rfl⟩ := Registry.exists_firstRepeated_of_ofDocuments hregister
      exact .inr ⟨d, hfirst, rfl⟩
  | ok r =>
      have hfiled := isFiled_of_documents hproper hds
      have hsources := nodup_sources_of_documents hproper hds
      refine .inl ⟨r, rfl, (Registry.nodup_of_registerAll hregister).1, ?_, ?_⟩
      · intro d
        exact Registry.mem_all_iff_of_ofDocuments hregister
      · intro d hd
        refine ⟨(Registry.get?_eq_some_iff_of_ofDocuments hregister).mpr ⟨hd, rfl⟩, ?_⟩
        intro path hsource
        exact findBySource?_of_ofDocuments hregister hfiled hsources hd hsource

/-- **The search is complete, exact and independent of the order of entries.** It finds the files
that have the name of a Markdown file and no name on the way that begins with a dot, once each and
in increasing order; they are read and registered in this order, and the first fault decides. A
file comes to a document by its text if its content is one, and otherwise cannot be read. -/
theorem documents_complete
    (hproper : ∀ tree, w.find root = .ok tree → tree.ProperlyNamed ∧ tree.Distinct) :
    (documentPaths w root).Pairwise (· < ·) ∧
    (∀ path, path ∈ documentPaths w root ↔
      ∃ tree names content, w.find root = .ok tree ∧ IsDocumentAt tree names content ∧
        path = Text.join "/" names) ∧
    (∀ cause, w.find root = .error cause → documentPaths w root = []) ∧
    (∀ w' tree other, w.find root = .ok tree → w'.find root = .ok other → tree.Rearranged other →
      documentPaths w' root = documentPaths w root ∧ documents w' root = documents w root) ∧
    (∀ tree names content, w.find root = .ok tree → IsDocumentAt tree names content →
      w.find (root.join ⟨Text.join "/" names⟩) = .ok (.file content) ∧
        readDocument w root (Text.join "/" names) =
          match Text.decodeStrict content with
          | some text => (documentOf (Text.join "/" names) text).mapError fun fault =>
              .frontMatter (root.join ⟨Text.join "/" names⟩) fault.message
          | none => .error (.io (root.join ⟨Text.join "/" names⟩) ReadError.notText.message)) ∧
    (∀ ds, documents w root = .ok ds ↔
      List.Forall₂ (fun path d => readDocument w root path = .ok d ∧ d.source = some ⟨path⟩)
        (documentPaths w root) ds) ∧
    (∀ cause, documents w root = .error cause ↔
      ∃ front path back, documentPaths w root = front ++ path :: back ∧
        (∀ other ∈ front, ∃ d, readDocument w root other = .ok d) ∧
        readDocument w root path = .error cause) ∧
    ∀ ds, documents w root = .ok ds →
      (∃ r, Registry.ofSource (documents w root) = .ok r ∧ (ds.map (·.id)).Nodup ∧
        (∀ d, d ∈ r.all ↔ d ∈ ds) ∧
        ∀ d ∈ ds, r.get? d.id = some d ∧
          ∀ path, d.source = some path → r.findBySource? path = some d.id) ∨
      ∃ d, Registry.FirstRepeated ds d ∧
        Registry.ofSource (documents w root) = .error (.duplicateId d.id) := by
  refine ⟨pairwise_documentPaths hproper, fun path => mem_documentPaths_iff, ?_, ?_, ?_, ?_,
    fun cause => mapM_eq_error_iff, ?_⟩
  · intro cause hnone
    rw [documentPaths, hnone]
  · intro w' tree other hfind hfind' hsame
    obtain ⟨hnames, hdistinct⟩ := hproper tree hfind
    exact documents_of_rearranged hnames hdistinct hfind hfind' hsame
  · intro tree names content hfind hdocument
    obtain ⟨hnames, hdistinct⟩ := hproper tree hfind
    exact ⟨find_join hnames hdistinct hfind hdocument,
      readDocument_of_isDocumentAt hnames hdistinct hfind hdocument⟩
  · intro ds
    have hsource : ∀ path d, readDocument w root path = .ok d ↔
        readDocument w root path = .ok d ∧ d.source = some ⟨path⟩ :=
      fun path d => ⟨fun hread => ⟨hread, source_of_readDocument hread⟩, And.left⟩
    simp only [← hsource]
    exact mapM_eq_ok_iff
  · intro ds hds
    rw [hds]
    exact ofDocuments_of_documents hproper hds

/-- The entries of a directory with a hidden directory, a directory with the name of a Markdown file
and a file of another kind. -/
def mixedEntries : List (String × FileTree) :=
  [("x.md", .directory [("b.c.mdx", .file []), (".y.md", .file [])]),
    (".git", .directory [("z.md", .file [])]), ("n.txt", .file []), ("a.md", .file [])]

/-- A workspace with some entries in its docs directory. -/
def mixed (entries : List (String × FileTree)) : Workspace where
  root := .directory [("docs", .directory entries)]
  cwd := []
  env := []

theorem find_mixed (entries : List (String × FileTree)) :
    (mixed entries).find ⟨"docs"⟩ = .ok (.directory entries) := rfl

theorem proper_mixed {entries : List (String × FileTree)}
    (hnames : (FileTree.directory entries).ProperlyNamed)
    (hdistinct : (FileTree.directory entries).Distinct) :
    ∀ tree, (mixed entries).find ⟨"docs"⟩ = .ok tree → tree.ProperlyNamed ∧ tree.Distinct := by
  intro tree htree
  rw [find_mixed, Except.ok.injEq] at htree
  exact htree ▸ ⟨hnames, hdistinct⟩

/-- A file whose front matter gives an id with a slash, between one without faults and one whose
content is no text. -/
def faultyEntries : List (String × FileTree) :=
  [("a.md", .file []), ("b.md", .file (Text.encodeUtf8 "---\nid: a/b\n---\n")),
    ("c.md", .file [255])]

/-- Two files with the same id. -/
def twinEntries : List (String × FileTree) :=
  [("a.md", .file []), ("a.mdx", .file [])]

/-- The entries are listed in another order, and the same files are found and registered. The first
of two faults decides, and of two files with the same id the second one is refused. -/
theorem documents_complete_sample :
    (∀ tree, (mixed mixedEntries).find ⟨"docs"⟩ = .ok tree → tree.ProperlyNamed ∧ tree.Distinct) ∧
      (documentPaths (mixed mixedEntries) ⟨"docs"⟩).Pairwise (· < ·) ∧
      "x.md/b.c.mdx" ∈ documentPaths (mixed mixedEntries) ⟨"docs"⟩ ∧
      documentPaths (mixed mixedEntries.reverse) ⟨"docs"⟩ =
        documentPaths (mixed mixedEntries) ⟨"docs"⟩ ∧
      documents (mixed mixedEntries.reverse) ⟨"docs"⟩ =
        documents (mixed mixedEntries) ⟨"docs"⟩ ∧
      (∃ r, Registry.ofSource (documents (mixed mixedEntries) ⟨"docs"⟩) = .ok r ∧
        r.findBySource? ⟨"x.md/b.c.mdx"⟩ = some "x.md/b.c") ∧
      documents (mixed faultyEntries) ⟨"docs"⟩ =
        .error (.frontMatter ⟨"docs/b.md"⟩ (FrontMatterFault.slashInId "a/b").message) ∧
      readDocument (mixed faultyEntries) ⟨"docs"⟩ "c.md" =
        .error (.io ⟨"docs/c.md"⟩ ReadError.notText.message) ∧
      Registry.ofSource (documents (mixed twinEntries) ⟨"docs"⟩) = .error (.duplicateId "a") := by
  have hproper : ∀ tree, (mixed mixedEntries).find ⟨"docs"⟩ = .ok tree →
      tree.ProperlyNamed ∧ tree.Distinct :=
    proper_mixed (by simp [mixedEntries, FileTree.IsName]) (by simp [mixedEntries])
  have hfaulty : ∀ tree, (mixed faultyEntries).find ⟨"docs"⟩ = .ok tree →
      tree.ProperlyNamed ∧ tree.Distinct :=
    proper_mixed (by simp [faultyEntries, FileTree.IsName]) (by simp [faultyEntries])
  have htwin : ∀ tree, (mixed twinEntries).find ⟨"docs"⟩ = .ok tree →
      tree.ProperlyNamed ∧ tree.Distinct :=
    proper_mixed (by simp [twinEntries, FileTree.IsName]) (by simp [twinEntries])
  obtain ⟨hsorted, hmem, -, hsame, -, -, -, hregistered⟩ := documents_complete hproper
  obtain ⟨-, -, -, -, hread, -, hfault, -⟩ := documents_complete hfaulty
  obtain ⟨-, -, -, -, -, -, -, hrefused⟩ := documents_complete htwin
  have hreverse := hsame (mixed mixedEntries.reverse) _ _ (find_mixed _) (find_mixed _)
    (.reorder (List.reverse_perm mixedEntries).symm)
  have hdocument : IsDocumentAt (.directory mixedEntries) ["x.md", "b.c.mdx"] [] := by
    refine ⟨.inside List.mem_cons_self (.inside List.mem_cons_self (.here [])), by decide, ?_⟩
    exact ⟨"b.c.mdx", rfl, "b.c", by decide, .inr rfl⟩
  have hunreadable : IsDocumentAt (.directory faultyEntries) ["c.md"] [255] :=
    ⟨.inside (by simp [faultyEntries]) (.here [255]), by decide, "c.md", rfl, "c", by decide,
      .inl rfl⟩
  refine ⟨hproper, hsorted, (hmem _).mpr ⟨_, _, [], find_mixed _, hdocument, rfl⟩, hreverse.1,
    hreverse.2, ?_, ?_, (hread _ _ _ (find_mixed _) hunreadable).2, ?_⟩
  · have hpaths : documentPaths (mixed mixedEntries) ⟨"docs"⟩ = ["a.md", "x.md/b.c.mdx"] :=
      hreverse.1.symm.trans (documentPaths_eq rfl (by decide +kernel) (by decide))
    have hds : documents (mixed mixedEntries) ⟨"docs"⟩ =
        .ok [⟨"a", "A", some ⟨"a.md"⟩, []⟩, ⟨"x.md/b.c", "B.c", some ⟨"x.md/b.c.mdx"⟩, []⟩] := by
      rw [documents, hpaths]
      decide +kernel
    rcases hregistered _ hds with ⟨r, hr, -, -, hfound⟩ | ⟨d, hrepeated, -⟩
    · exact ⟨r, hr, (hfound ⟨"x.md/b.c", "B.c", some ⟨"x.md/b.c.mdx"⟩, []⟩ (by simp)).2 _ rfl⟩
    · exact absurd (by decide) (Registry.not_nodup_of_firstRepeated hrepeated)
  · have hpaths : documentPaths (mixed faultyEntries) ⟨"docs"⟩ = ["a.md", "b.md", "c.md"] :=
      documentPaths_eq rfl (by decide +kernel) (by decide)
    refine (hfault _).mpr ⟨["a.md"], "b.md", ["c.md"], hpaths, ?_, by decide +kernel⟩
    simp only [List.mem_singleton, forall_eq]
    exact ⟨⟨"a", "A", some ⟨"a.md"⟩, []⟩, by decide +kernel⟩
  · have hpaths : documentPaths (mixed twinEntries) ⟨"docs"⟩ = ["a.md", "a.mdx"] :=
      documentPaths_eq rfl (by decide +kernel) (by decide)
    have hds : documents (mixed twinEntries) ⟨"docs"⟩ =
        .ok [⟨"a", "A", some ⟨"a.md"⟩, []⟩, ⟨"a", "A", some ⟨"a.mdx"⟩, []⟩] := by
      rw [documents, hpaths]
      decide +kernel
    rcases hrefused _ hds with ⟨r, -, hnodup, -⟩ | ⟨d, ⟨front, back, hsplit, -⟩, hr⟩
    · exact absurd hnodup (by decide)
    · have hd : d ∈ front ++ d :: back := by simp
      rw [← hsplit] at hd
      have hid : d.id = "a" := by
        rcases List.mem_cons.mp hd with rfl | hd
        · rfl
        · rw [List.mem_singleton.mp hd]
      rw [hr, hid]

end Discovery

end Signpost
