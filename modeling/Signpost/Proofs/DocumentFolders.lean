import Signpost.Proofs.DocumentSearch

/-!
# Documents and their folders

Front matter can give a document another name, but not another folder. The names in its id are those
of the folders on the way to its file, and then the name that it was given, or else the name of the
file without the extension. So documents with one id are in one folder, and if a registry of the
documents below a directory cannot be made because of an id, two files in one folder are the reason.
-/

namespace Signpost

/-- The directory part of joined names is made of all names but the last. -/
theorem DocumentId.dir_join {last : String} (hlast : '/' ∉ last.toList) (folder : List String) :
    DocumentId.dir (Text.join "/" (folder ++ [last])) = Text.join "/" folder := by
  have hcut : Text.cutLast '/' (Text.join "/" (folder ++ [last])) =
      if folder = [] then none else some (Text.join "/" folder, last) :=
    Text.cutLast_join hlast folder
  rw [dir, hcut]
  by_cases hfolder : folder = []
  · rw [if_pos hfolder, hfolder, Text.join]
  · rw [if_neg hfolder]

namespace Discovery

variable {w : Workspace} {root : Path} {path text : String} {d e : Document} {ds : List Document}

/-- Another last part takes the place of the name and of nothing else. -/
theorem withLastPart_join {last : String} (hlast : '/' ∉ last.toList) (folder : List String)
    (part : String) :
    withLastPart (Text.join "/" (folder ++ [last])) part = Text.join "/" (folder ++ [part]) := by
  have hcut : Text.cutLast '/' (Text.join "/" (folder ++ [last])) =
      if folder = [] then none else some (Text.join "/" folder, last) :=
    Text.cutLast_join hlast folder
  rw [withLastPart, hcut]
  by_cases hfolder : folder = []
  · rw [if_pos hfolder, hfolder, List.nil_append, Text.join]
  · rw [if_neg hfolder, Text.join_concat_of_ne_nil "/" part hfolder]

/-- The id of a file in a folder, from the name that it was given. -/
theorem idOf_join {folder : List String} {stem : String} {given : Option String}
    {id : DocumentId} (hstem : '/' ∉ stem.toList)
    (hpath : idOfPath path = Text.join "/" (folder ++ [stem])) (hid : idOf path given = .ok id) :
    id = Text.join "/" (folder ++ [given.getD stem]) ∧ '/' ∉ (given.getD stem).toList := by
  cases given with
  | none =>
      cases hid
      exact ⟨hpath, hstem⟩
  | some part =>
      rw [idOf] at hid
      split at hid
      · cases hid
      · rename_i hpart
        split at hid
        · cases hid
        · cases hid
          rw [hpath, withLastPart_join hstem]
          exact ⟨rfl, hpart⟩

/-- The names on the way to a file, and the names in the id of its document. -/
theorem exists_names_of_documentOf
    (hproper : ∀ tree, w.find root = .ok tree → tree.ProperlyNamed)
    (hpath : path ∈ documentPaths w root) (hdocument : documentOf path text = .ok d) :
    ∃ folder stem ext, (ext = ".md" ∨ ext = ".mdx") ∧
      Text.cut '/' path = folder ++ [stem ++ ext] ∧
      Text.cut '/' d.id = folder ++ [(givenId? text).getD stem] ∧
      DocumentId.dir d.id = DocumentId.dir path := by
  obtain ⟨tree, names, content, hfind, hfile, rfl⟩ := mem_documentPaths_iff.mp hpath
  have hroute := hfile.isRoute (hproper tree hfind)
  obtain ⟨folder, stem, ext, hext, rfl, hdefault⟩ := hfile.exists_stem
  have hlast : '/' ∉ (stem ++ ("." ++ ext)).toList := (hroute.visible _ (by simp)).slash_notMem
  have hstem : '/' ∉ stem.toList := fun hmem => hlast (by simp [hmem])
  obtain ⟨hid, hpart⟩ := idOf_join hstem hdefault (eq_of_documentOf hdocument).2
  have hparts : ∀ name ∈ folder ++ [(givenId? text).getD stem], '/' ∉ name.toList := by
    intro name hname
    rcases List.mem_append.mp hname with hfolder | hsame
    · exact (hroute.visible name (List.mem_append_left _ hfolder)).slash_notMem
    · rwa [List.mem_singleton.mp hsame]
  refine ⟨folder, stem, "." ++ ext, ?_, hroute.arePieces.cut_join_eq, ?_, ?_⟩
  · have hcases : ext = "md" ∨ ext = "mdx" := by simpa [extensions] using hext
    rcases hcases with rfl | rfl
    · exact .inl rfl
    · exact .inr rfl
  · rw [hid]
    exact Text.cut_join (by simp) hparts
  · rw [hid, DocumentId.dir_join hpart folder, DocumentId.dir_join hlast folder]

theorem dropLast_cut_id (hproper : ∀ tree, w.find root = .ok tree → tree.ProperlyNamed)
    (hds : documents w root = .ok ds) (hd : d ∈ ds) :
    (Text.cut '/' d.id).dropLast = d.folder := by
  obtain ⟨path, hpath, hread⟩ := exists_of_mem_of_forall₂ (forall₂_of_documents hds) hd
  obtain ⟨text, hdocument⟩ := documentOf_of_readDocument hread
  obtain ⟨folder, stem, ext, -, hcut, hid, -⟩ := exists_names_of_documentOf hproper hpath hdocument
  rw [Document.folder, Document.route, source_of_readDocument hread]
  dsimp only
  rw [hid, hcut, List.dropLast_concat, List.dropLast_concat]

/-- Documents with one id are in one folder. -/
theorem folder_eq_of_id_eq (hproper : ∀ tree, w.find root = .ok tree → tree.ProperlyNamed)
    (hds : documents w root = .ok ds) (hd : d ∈ ds) (he : e ∈ ds) (hid : d.id = e.id) :
    d.folder = e.folder := by
  rw [← dropLast_cut_id hproper hds hd, ← dropLast_cut_id hproper hds he, hid]

/-- Where an id is refused, two files have a document with it. -/
theorem exists_two_of_duplicateId
    (hproper : ∀ tree, w.find root = .ok tree → tree.ProperlyNamed ∧ tree.Distinct)
    {id : DocumentId} (hrefused : Registry.ofSource (documents w root) = .error (.duplicateId id)) :
    ∃ ds, documents w root = .ok ds ∧
      ∃ d ∈ ds, ∃ e ∈ ds, d.id = id ∧ e.id = id ∧ d.source ≠ e.source := by
  cases hds : documents w root with
  | error cause =>
      rw [hds] at hrefused
      cases hrefused
  | ok ds =>
      rw [hds] at hrefused
      obtain ⟨e, ⟨front, back, rfl, -, hrepeated⟩, hcause⟩ :=
        Registry.exists_firstRepeated_of_ofDocuments hrefused
      obtain ⟨d, hd, hid⟩ := List.mem_map.mp hrepeated
      obtain rfl : id = e.id := by simpa using hcause
      have hsources := nodup_sources_of_documents hproper hds
      rw [List.map_append, List.map_cons, List.nodup_append] at hsources
      refine ⟨_, rfl, d, List.mem_append_left _ hd, e, by simp, hid, rfl, ?_⟩
      exact hsources.2.2 d.source (List.mem_map.mpr ⟨d, hd, rfl⟩) e.source List.mem_cons_self

/-- **Front matter can rename a document, but not move it.** The id of a document has the names of
the folders on the way to its file, and behind them the name that its front matter gives, or else
the name of the file without the extension. Two documents that have one id are in one folder, and if
an id is refused as a second one, there are two files in one folder whose documents have it. -/
theorem keeps_folder
    (hproper : ∀ tree, w.find root = .ok tree → tree.ProperlyNamed ∧ tree.Distinct) :
    (∀ path ∈ documentPaths w root, ∀ text d, documentOf path text = .ok d →
      ∃ folder stem ext, (ext = ".md" ∨ ext = ".mdx") ∧
        Text.cut '/' path = folder ++ [stem ++ ext] ∧
        Text.cut '/' d.id = folder ++ [(givenId? text).getD stem] ∧
        DocumentId.dir d.id = DocumentId.dir path) ∧
    (∀ ds, documents w root = .ok ds →
      ∀ d ∈ ds, ∀ e ∈ ds, d.id = e.id → d.folder = e.folder) ∧
    ∀ id, Registry.ofSource (documents w root) = .error (.duplicateId id) →
      ∃ ds, documents w root = .ok ds ∧ ∃ d ∈ ds, ∃ e ∈ ds, d.id = id ∧ e.id = id ∧
        d.source ≠ e.source ∧ d.folder = e.folder := by
  have hnames : ∀ tree, w.find root = .ok tree → tree.ProperlyNamed :=
    fun tree hfind => (hproper tree hfind).1
  refine ⟨fun path hpath text d => exists_names_of_documentOf hnames hpath, ?_, ?_⟩
  · intro ds hds d hd e he hid
    exact folder_eq_of_id_eq hnames hds hd he hid
  · intro id hrefused
    obtain ⟨ds, hds, d, hd, e, he, rfl, hid, hsource⟩ := exists_two_of_duplicateId hproper hrefused
    exact ⟨ds, hds, d, hd, e, he, rfl, hid, hsource,
      folder_eq_of_id_eq hnames hds hd he hid.symm⟩

/-- A folder with a dot in its name, and in it two files with dots in theirs. The front matter of the
one gives it the name that the other has. -/
def clashing : Workspace where
  root := .directory [("docs", .directory [("v1.2", .directory
    [("a.b.md", .file (Text.encodeUtf8 "---\nid: c.d\n---\n")), ("c.d.mdx", .file [])])])]
  cwd := []
  env := []

theorem documentPaths_clashing :
    documentPaths clashing ⟨"docs"⟩ = ["v1.2/a.b.md", "v1.2/c.d.mdx"] :=
  documentPaths_eq rfl (by decide +kernel) (by decide)

theorem documents_clashing :
    documents clashing ⟨"docs"⟩ =
      .ok [⟨"v1.2/c.d", "A.b", some ⟨"v1.2/a.b.md"⟩, []⟩,
        ⟨"v1.2/c.d", "C.d", some ⟨"v1.2/c.d.mdx"⟩, []⟩] := by
  rw [documents, documentPaths_clashing]
  decide +kernel

theorem keeps_folder_sample :
    (∀ tree, clashing.find ⟨"docs"⟩ = .ok tree → tree.ProperlyNamed ∧ tree.Distinct) ∧
      (∃ d, documentOf "v1.2/a.b.md" "---\nid: c.d\n---\n" = .ok d ∧
        Text.cut '/' d.id = ["v1.2", "c.d"] ∧ DocumentId.dir d.id = "v1.2") ∧
      Registry.ofSource (documents clashing ⟨"docs"⟩) = .error (.duplicateId "v1.2/c.d") ∧
      ∃ ds, documents clashing ⟨"docs"⟩ = .ok ds ∧ ∃ d ∈ ds, ∃ e ∈ ds, d.id = "v1.2/c.d" ∧
        e.id = "v1.2/c.d" ∧ d.source ≠ e.source ∧ d.folder = e.folder := by
  have hproper : ∀ tree, clashing.find ⟨"docs"⟩ = .ok tree → tree.ProperlyNamed ∧ tree.Distinct := by
    intro tree hfind
    obtain rfl : _ = tree := Except.ok.inj hfind
    simp [FileTree.IsName]
  obtain ⟨hnames, -, hrefused⟩ := keeps_folder hproper
  have hpath : "v1.2/a.b.md" ∈ documentPaths clashing ⟨"docs"⟩ := by
    rw [documentPaths_clashing]
    exact List.mem_cons_self
  have hdocument : documentOf "v1.2/a.b.md" "---\nid: c.d\n---\n" =
      .ok ⟨"v1.2/c.d", "A.b", some ⟨"v1.2/a.b.md"⟩, []⟩ := by
    decide +kernel
  obtain ⟨folder, stem, ext, -, hcut, hid, hdir⟩ := hnames _ hpath _ _ hdocument
  have hduplicate : Registry.ofSource (documents clashing ⟨"docs"⟩) =
      .error (.duplicateId "v1.2/c.d") := by
    rw [documents_clashing]
    rfl
  exact ⟨hproper, ⟨_, hdocument, by decide, hdir.trans (by decide)⟩, hduplicate,
    hrefused _ hduplicate⟩

end Discovery

end Signpost
