import Signpost.Proofs.EscapingLinks

/-!
# One convention for ids

The search takes the id of a file from its path, which it cuts at the last dot once the name has
passed a test of its extension. The link checker tries the endings of Markdown files on the path
that a link names. On the paths of the search the two agree, wherever else dots may stand in them.

So two files have one default id only if nothing but their endings differs. Where front matter gives
no ids, such a pair is all that can keep the documents from being registered, and a link to the file
of a document leads to that document both by its file and by its id.
-/

namespace Signpost.Link

open Discovery

/-- One of the paths ends in `.md` and the other in `.mdx`, and before that they are the same. -/
def DifferInEnding (path other : String) : Prop :=
  ∃ stem, (path = stem ++ ".md" ∧ other = stem ++ ".mdx") ∨
    (path = stem ++ ".mdx" ∧ other = stem ++ ".md")

/-- In no file that is found does the front matter give an id. -/
def GivesNoIds (w : Workspace) (root : Path) : Prop :=
  ∀ path ∈ documentPaths w root, ∀ text, w.readText (root.join ⟨path⟩) = .ok text →
    givenId? text = none

/-- The path that a link names leads to the document, by its file and by its id alike. -/
structure ResolvesTo (r : Registry) (target : String) (d : Document) : Prop where
  findBySource?_eq : r.findBySource? ⟨target⟩ = some d.id
  get?_eq : r.get? (conventionalId target) = some d
  resolve?_eq : resolve? r target = some d.id

variable {w : Workspace} {root : Path} {r : Registry} {ds : List Document} {d e : Document}
  {path other target link : String}

/-! ### The id of a path -/

/-- What the search leaves of a path is the path without its ending. -/
theorem hasStem_idOfPath (hpath : path ∈ documentPaths w root) : HasStem path (idOfPath path) := by
  obtain ⟨ext, hext, heq⟩ := exists_extension_of_mem_documentPaths hpath
  rw [String.append_assoc] at heq
  have hcases : ext = "md" ∨ ext = "mdx" := by simpa [Discovery.extensions] using hext
  rcases hcases with rfl | rfl
  · exact .inl heq
  · exact .inr heq

theorem conventionalId_eq_idOfPath (hpath : path ∈ documentPaths w root) :
    conventionalId path = idOfPath path :=
  conventionalId_of_hasStem (hasStem_idOfPath hpath)

theorem DifferInEnding.ne (hdiffer : DifferInEnding path other) : path ≠ other := by
  obtain ⟨stem, ⟨rfl, rfl⟩ | ⟨rfl, rfl⟩⟩ := hdiffer <;> simp

/-- Paths with one stem are the same unless their endings differ. -/
theorem eq_or_differInEnding_of_hasStem {stem : String} (hpath : HasStem path stem)
    (hother : HasStem other stem) : path = other ∨ DifferInEnding path other := by
  rcases hpath with rfl | rfl
  · rcases hother with rfl | rfl
    · exact .inl rfl
    · exact .inr ⟨stem, .inl ⟨rfl, rfl⟩⟩
  · rcases hother with rfl | rfl
    · exact .inr ⟨stem, .inr ⟨rfl, rfl⟩⟩
    · exact .inl rfl

theorem idOfPath_eq_iff_differInEnding (hpath : path ∈ documentPaths w root)
    (hother : other ∈ documentPaths w root) (hne : path ≠ other) :
    idOfPath path = idOfPath other ↔ DifferInEnding path other := by
  constructor
  · intro hsame
    have hstem : HasStem other (idOfPath path) := hsame ▸ hasStem_idOfPath hother
    exact (eq_or_differInEnding_of_hasStem (hasStem_idOfPath hpath) hstem).resolve_left hne
  · rintro ⟨stem, hends⟩
    have hstems : HasStem path stem ∧ HasStem other stem :=
      hends.elim (fun hends => ⟨.inl hends.1, .inr hends.2⟩)
        fun hends => ⟨.inr hends.1, .inl hends.2⟩
    rw [← conventionalId_eq_idOfPath hpath, ← conventionalId_eq_idOfPath hother,
      conventionalId_of_hasStem hstems.1, conventionalId_of_hasStem hstems.2]

/-! ### Documents without ids of their own -/

/-- It is enough to look at the texts of the files. -/
theorem givesNoIds_of_texts {texts : List String}
    (hread : List.Forall₂ (fun path text => w.readText (root.join ⟨path⟩) = .ok text)
      (documentPaths w root) texts)
    (hnone : ∀ text ∈ texts, givenId? text = none) : GivesNoIds w root := by
  intro path hpath text htext
  obtain ⟨found, hfound, hread'⟩ := exists_of_mem_of_forall₂ hread.flip hpath
  obtain rfl : found = text := Except.ok.inj (hread'.symm.trans htext)
  exact hnone found hfound

/-- The document of a file has the default id of its path. -/
theorem GivesNoIds.id_eq (hnone : GivesNoIds w root) (hds : documents w root = .ok ds)
    (hd : d ∈ ds) (hsource : d.source = some ⟨path⟩) :
    path ∈ documentPaths w root ∧ d.id = idOfPath path := by
  obtain ⟨found, hfound, hread⟩ := exists_of_mem_of_forall₂ (forall₂_of_documents hds) hd
  obtain ⟨text, htext, hdocument⟩ := readDocument_eq_ok_iff.mp hread
  obtain ⟨hfile, hid⟩ := eq_of_documentOf hdocument
  obtain rfl : found = path := by simpa using hfile.symm.trans hsource
  rw [hnone found hfound text htext] at hid
  exact ⟨hfound, (Except.ok.inj hid).symm⟩

/-- Documents of two files have one id only if the endings are all that differs. -/
theorem GivesNoIds.id_eq_iff (hnone : GivesNoIds w root) (hds : documents w root = .ok ds)
    (hd : d ∈ ds) (he : e ∈ ds) (hsource : d.source = some ⟨path⟩)
    (hother : e.source = some ⟨other⟩) (hne : path ≠ other) :
    d.id = e.id ↔ DifferInEnding path other := by
  obtain ⟨hpath, hid⟩ := hnone.id_eq hds hd hsource
  obtain ⟨hpath', hid'⟩ := hnone.id_eq hds he hother
  rw [hid, hid', idOfPath_eq_iff_differInEnding hpath hpath' hne]

theorem exists_document_of_mem_documentPaths (hds : documents w root = .ok ds)
    (hpath : path ∈ documentPaths w root) : ∃ d ∈ ds, d.source = some ⟨path⟩ := by
  obtain ⟨d, hd, hread⟩ := exists_of_mem_of_forall₂ (forall₂_of_documents hds).flip hpath
  exact ⟨d, hd, source_of_readDocument hread⟩

/-- The documents can be registered unless two files differ in their endings only. -/
theorem GivesNoIds.exists_registry_iff (hnone : GivesNoIds w root)
    (hproper : ∀ tree, w.find root = .ok tree → tree.ProperlyNamed ∧ tree.Distinct)
    (hds : documents w root = .ok ds) :
    (∃ r, Registry.ofSource (documents w root) = .ok r) ↔
      ∀ path ∈ documentPaths w root, ∀ other ∈ documentPaths w root,
        ¬DifferInEnding path other := by
  constructor
  · rintro ⟨r, hr⟩ path hpath other hother hdiffer
    rw [hds] at hr
    obtain ⟨d, hd, hsource⟩ := exists_document_of_mem_documentPaths hds hpath
    obtain ⟨e, he, hsource'⟩ := exists_document_of_mem_documentPaths hds hother
    have hid : d.id = e.id :=
      (hnone.id_eq_iff hds hd he hsource hsource' hdiffer.ne).mpr hdiffer
    have hsame : d = e :=
      List.inj_on_of_nodup_map (Registry.nodup_of_registerAll hr).1 hd he hid
    rw [hsame, hsource'] at hsource
    exact hdiffer.ne (by simpa using hsource.symm)
  · intro hnodiffer
    rcases ofDocuments_of_documents hproper hds with ⟨r, hr, -⟩ | ⟨first, -, hrefused⟩
    · exact ⟨r, hds ▸ hr⟩
    · have hduplicate : Registry.ofSource (documents w root) = .error (.duplicateId first.id) :=
        hds ▸ hrefused
      obtain ⟨found, hfound, d, hd, e, he, hid, hid', hsources⟩ :=
        exists_two_of_duplicateId hproper hduplicate
      have hfiled := isFiled_of_documents hproper hfound
      have hsource := (hfiled d hd).source_eq
      have hsource' := (hfiled e he).source_eq
      have hne : Text.join "/" d.route ≠ Text.join "/" e.route := by
        intro hroutes
        rw [hsource, hsource', hroutes] at hsources
        exact hsources rfl
      have hdiffer : DifferInEnding (Text.join "/" d.route) (Text.join "/" e.route) :=
        (hnone.id_eq_iff hfound hd he hsource hsource' hne).mp (hid.trans hid'.symm)
      exact absurd hdiffer (hnodiffer _ (hnone.id_eq hfound hd hsource).1 _
        (hnone.id_eq hfound he hsource').1)

/-! ### Links to the files of documents -/

/-- The path of a document's file leads to the document. -/
theorem GivesNoIds.resolvesTo (hnone : GivesNoIds w root)
    (hproper : ∀ tree, w.find root = .ok tree → tree.ProperlyNamed ∧ tree.Distinct)
    (hds : documents w root = .ok ds) (hregister : Registry.ofDocuments ds = .ok r) (hd : d ∈ ds)
    (hsource : d.source = some ⟨target⟩) : ResolvesTo r target d := by
  have hfound : r.findBySource? ⟨target⟩ = some d.id :=
    findBySource?_of_ofDocuments hregister (isFiled_of_documents hproper hds)
      (nodup_sources_of_documents hproper hds) hd hsource
  obtain ⟨hpath, hid⟩ := hnone.id_eq hds hd hsource
  refine ⟨hfound, ?_, ?_⟩
  · rw [conventionalId_eq_idOfPath hpath, ← hid]
    exact (Registry.get?_eq_some_iff_of_ofDocuments hregister).mpr ⟨hd, rfl⟩
  · rw [resolve?, hfound]

/-- A link from a directory without dot segments names a file only as its document has it, and not
by another writing of the same path. -/
theorem source_eq_of_same (hbase : IsUndotted e.linkBase) (htarget : target? e link = some target)
    (hd : d.IsFiled) {source : Path} (hsource : d.source = some source)
    (hsame : Path.same ⟨target⟩ source = true) : d.source = some ⟨target⟩ := by
  obtain ⟨⟨⟨front, hfront⟩, -, -⟩, htarget⟩ := target?_eq_some_iff.mp htarget
  obtain ⟨stem, hstem⟩ := exists_hasStem_foldl hfront (baseSegments e.linkBase)
  obtain ⟨count, names, hpath, hnames, -⟩ := exists_normalize_eq hbase (readPath link)
  change HasStem (normalize e.linkBase (readPath link)) stem at hstem
  rw [← htarget] at hstem hpath
  have hpieces : Path.ArePieces (List.replicate count ".." ++ names) := by
    refine arePieces_of_isPlain hnames fun hnil => ?_
    rw [hnil, Text.join] at hpath
    rcases hstem with hends | hends <;> simp [hpath] at hends
  have hwritten : source = ⟨Text.join "/" d.route⟩ :=
    Option.some.inj (hsource.symm.trans hd.source_eq)
  rw [hwritten, hpath, hpieces.same_join_iff hd.isRoute.arePieces] at hsame
  rw [hd.source_eq, hpath, hsame]

/-- **The search and the link checker have one convention.** For every file that is found, both take
the path without its ending for its id, and two files have one default id if and only if they differ
in their endings only. Where front matter gives no ids, the documents can be registered unless there
are two such files, and the path of a document's file leads to it, by its file and by its id alike.
Links from a directory without dot segments name this path in no other writing. -/
theorem shares_convention
    (hproper : ∀ tree, w.find root = .ok tree → tree.ProperlyNamed ∧ tree.Distinct) :
    (∀ path ∈ documentPaths w root, ∃ stem, (path = stem ++ ".md" ∨ path = stem ++ ".mdx") ∧
      conventionalId path = stem ∧ idOfPath path = stem) ∧
    (∀ path ∈ documentPaths w root, ∀ other ∈ documentPaths w root, path ≠ other →
      (idOfPath path = idOfPath other ↔ DifferInEnding path other)) ∧
    (GivesNoIds w root →
      (∀ ds, documents w root = .ok ds →
        ((∃ r, Registry.ofSource (documents w root) = .ok r) ↔
          ∀ path ∈ documentPaths w root, ∀ other ∈ documentPaths w root,
            ¬DifferInEnding path other)) ∧
      ∀ r, Registry.ofSource (documents w root) = .ok r →
        (∀ d ∈ r.all, ∀ target, d.source = some ⟨target⟩ → ResolvesTo r target d) ∧
        ∀ e link target, IsUndotted e.linkBase → target? e link = some target →
          ∀ d ∈ r.all, ∀ source, d.source = some source → Path.same ⟨target⟩ source = true →
            ResolvesTo r target d) := by
  refine ⟨fun path hpath => ?_, fun path hpath other hother hne =>
    idOfPath_eq_iff_differInEnding hpath hother hne, fun hnone => ⟨fun ds hds =>
    hnone.exists_registry_iff hproper hds, fun r hr => ?_⟩⟩
  · exact ⟨idOfPath path, hasStem_idOfPath hpath, conventionalId_eq_idOfPath hpath, rfl⟩
  · obtain ⟨-, ds, hds, hmem⟩ := Registry.consistent_ofSource hr
    rw [hds] at hr
    have hsource : ∀ d ∈ r.all, ∀ target, d.source = some ⟨target⟩ → ResolvesTo r target d :=
      fun d hd target hfile => hnone.resolvesTo hproper hds hr (hmem d hd) hfile
    refine ⟨hsource, fun e link target hbase htarget d hd source hfile hsame => ?_⟩
    have hfiled : d.IsFiled := isFiled_of_documents hproper hds d (hmem d hd)
    exact hsource d hd target (source_eq_of_same hbase htarget hfiled hfile hsame)

/-- A folder with a dot in its name, and in it two files with more dots in theirs than one. -/
def dotted : Workspace where
  root := .directory [("docs", .directory [("v1.2", .directory
    [("a.md.mdx", .file []), ("b.c.md", .file (Text.encodeUtf8 "[](./a.md.mdx)"))])])]
  cwd := []
  env := []

theorem documentPaths_dotted :
    documentPaths dotted ⟨"docs"⟩ = ["v1.2/a.md.mdx", "v1.2/b.c.md"] :=
  documentPaths_eq rfl (by decide +kernel) (by decide)

theorem documents_dotted :
    documents dotted ⟨"docs"⟩ =
      .ok [⟨"v1.2/a.md", "A.md", some ⟨"v1.2/a.md.mdx"⟩, []⟩,
        ⟨"v1.2/b.c", "B.c", some ⟨"v1.2/b.c.md"⟩, ["./a.md.mdx"]⟩] := by
  rw [documents, documentPaths_dotted]
  decide +kernel

theorem givesNoIds_dotted : GivesNoIds dotted ⟨"docs"⟩ := by
  refine givesNoIds_of_texts (?_ : List.Forall₂ _ _ ["", "[](./a.md.mdx)"]) (by decide +kernel)
  rw [documentPaths_dotted]
  exact .cons (by decide +kernel) (.cons (by decide +kernel) .nil)

/-- Two files that differ in their endings only. -/
def twins : Workspace where
  root := .directory [("docs", .directory [("a.md", .file []), ("a.mdx", .file [])])]
  cwd := []
  env := []

theorem documentPaths_twins : documentPaths twins ⟨"docs"⟩ = ["a.md", "a.mdx"] :=
  documentPaths_eq rfl (by decide +kernel) (by decide)

theorem givesNoIds_twins : GivesNoIds twins ⟨"docs"⟩ := by
  refine givesNoIds_of_texts (?_ : List.Forall₂ _ _ ["", ""]) (by decide +kernel)
  rw [documentPaths_twins]
  exact .cons (by decide +kernel) (.cons (by decide +kernel) .nil)

/-- The link leads to the file with two endings, and the twins cannot be registered. -/
theorem shares_convention_sample :
    (∀ tree, dotted.find ⟨"docs"⟩ = .ok tree → tree.ProperlyNamed ∧ tree.Distinct) ∧
      GivesNoIds dotted ⟨"docs"⟩ ∧ "v1.2/a.md.mdx" ∈ documentPaths dotted ⟨"docs"⟩ ∧
      conventionalId "v1.2/a.md.mdx" = "v1.2/a.md" ∧ idOfPath "v1.2/a.md.mdx" = "v1.2/a.md" ∧
      (∃ r d e, Registry.ofSource (documents dotted ⟨"docs"⟩) = .ok r ∧ d ∈ r.all ∧ e ∈ r.all ∧
        d.source = some ⟨"v1.2/a.md.mdx"⟩ ∧ "./a.md.mdx" ∈ e.links ∧ IsUndotted e.linkBase ∧
        target? e "./a.md.mdx" = some "v1.2/a.md.mdx" ∧ ResolvesTo r "v1.2/a.md.mdx" d) ∧
      (∀ tree, twins.find ⟨"docs"⟩ = .ok tree → tree.ProperlyNamed ∧ tree.Distinct) ∧
      GivesNoIds twins ⟨"docs"⟩ ∧ idOfPath "a.md" = idOfPath "a.mdx" ∧
      ¬∃ r, Registry.ofSource (documents twins ⟨"docs"⟩) = .ok r := by
  have hdotted : ∀ tree, dotted.find ⟨"docs"⟩ = .ok tree → tree.ProperlyNamed ∧ tree.Distinct := by
    intro tree hfind
    obtain rfl : _ = tree := Except.ok.inj hfind
    simp [FileTree.IsName]
  have htwins : ∀ tree, twins.find ⟨"docs"⟩ = .ok tree → tree.ProperlyNamed ∧ tree.Distinct := by
    intro tree hfind
    obtain rfl : _ = tree := Except.ok.inj hfind
    simp [FileTree.IsName]
  have hpath : "v1.2/a.md.mdx" ∈ documentPaths dotted ⟨"docs"⟩ := by
    rw [documentPaths_dotted]
    exact List.mem_cons_self
  obtain ⟨hstems, -, hlinks⟩ := shares_convention hdotted
  obtain ⟨stem, -, hid, hdefault⟩ := hstems _ hpath
  have hstem : stem = "v1.2/a.md" := hid.symm.trans (by decide)
  subst hstem
  obtain ⟨r, hr, hall⟩ : ∃ r, Registry.ofSource (documents dotted ⟨"docs"⟩) = .ok r ∧
      r.all = [⟨"v1.2/a.md", "A.md", some ⟨"v1.2/a.md.mdx"⟩, []⟩,
        ⟨"v1.2/b.c", "B.c", some ⟨"v1.2/b.c.md"⟩, ["./a.md.mdx"]⟩] := by
    rw [documents_dotted]
    exact ⟨_, rfl, by decide⟩
  have hd : ⟨"v1.2/a.md", "A.md", some ⟨"v1.2/a.md.mdx"⟩, []⟩ ∈ r.all := by simp [hall]
  have he : ⟨"v1.2/b.c", "B.c", some ⟨"v1.2/b.c.md"⟩, ["./a.md.mdx"]⟩ ∈ r.all := by simp [hall]
  obtain ⟨-, hnamed⟩ := (hlinks givesNoIds_dotted).2 r hr
  have htarget : target? ⟨"v1.2/b.c", "B.c", some ⟨"v1.2/b.c.md"⟩, ["./a.md.mdx"]⟩ "./a.md.mdx" =
      some "v1.2/a.md.mdx" := by decide
  have hleads := hnamed _ _ _ (by decide) htarget _ hd _ rfl (by decide)
  obtain ⟨-, hshared, hrefused⟩ := shares_convention htwins
  have hpair : DifferInEnding "a.md" "a.mdx" := ⟨"a", .inl ⟨rfl, rfl⟩⟩
  rw [documentPaths_twins] at hshared hrefused
  have hsame := (hshared "a.md" (by decide) "a.mdx" (by decide) (by decide)).mpr hpair
  obtain ⟨ds, hds⟩ : ∃ ds, documents twins ⟨"docs"⟩ = .ok ds := by
    rw [documents, documentPaths_twins]
    exact ⟨_, rfl⟩
  have hnone : ¬∃ r, Registry.ofSource (documents twins ⟨"docs"⟩) = .ok r := fun hexists =>
    ((hrefused givesNoIds_twins).1 ds hds).mp hexists "a.md" (by decide) "a.mdx" (by decide) hpair
  exact ⟨hdotted, givesNoIds_dotted, hpath, hid, hdefault,
    ⟨r, _, _, hr, hd, he, rfl, by decide, by decide, htarget, hleads⟩, htwins, givesNoIds_twins,
    hsame, hnone⟩

end Signpost.Link
