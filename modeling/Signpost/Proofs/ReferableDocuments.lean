import Signpost.Proofs.DiscoveredFiles
import Signpost.Proofs.RegistryContents
import Signpost.Proofs.SpecReading

/-!
# Documents that a spec can refer to

A spec can refer to every document of a search, except to one whose id is only white space. Front
matter gives no such id, and neither does a path with a folder in it. There is one only where a file
directly in the docs directory has nothing but white space before its extension.
-/

namespace Signpost

namespace Discovery

variable {w : Workspace} {root : Path} {path : String} {id : DocumentId}

/-- The id is only white space, and a file directly in the docs directory has it as its name without
the extension. -/
def IsBlankName (w : Workspace) (root : Path) (id : DocumentId) : Prop :=
  Text.isBlank id = true ∧ ∃ ext ∈ extensions, id ++ "." ++ ext ∈ documentPaths w root

theorem isBlank_withLastPart {part : String} (hpart : Text.isBlank part = false) :
    Text.isBlank (withLastPart id part) = false := by
  have hlast (front : String) : Text.isBlank (front ++ part) = false := by
    rw [Text.isBlank, String.toList_append, List.all_append, Bool.and_eq_false_iff]
    exact .inr hpart
  unfold withLastPart
  split
  · exact hlast _
  · exact hpart

/-- Front matter gives no id of only white space. -/
theorem eq_idOfPath_of_isBlank {front : Option String} (hid : idOf path front = .ok id)
    (hblank : Text.isBlank id = true) : id = idOfPath path := by
  cases front with
  | none =>
      cases hid
      rfl
  | some part =>
      rw [idOf] at hid
      split at hid
      · cases hid
      · split at hid
        · cases hid
        · rename_i hpart
          cases hid
          rw [isBlank_withLastPart (by simpa using hpart)] at hblank
          cases hblank

theorem isBlankName_of_mem_documents {ds : List Document} (hds : documents w root = .ok ds)
    {d : Document} (hd : d ∈ ds) (hblank : Text.isBlank d.id = true) : IsBlankName w root d.id := by
  obtain ⟨path, hpath, hread⟩ := exists_of_mem_of_forall₂ (forall₂_of_documents hds) hd
  obtain ⟨text, hdocument⟩ := documentOf_of_readDocument hread
  obtain ⟨-, hid⟩ := eq_of_documentOf hdocument
  obtain ⟨ext, hext, heq⟩ := exists_extension_of_mem_documentPaths hpath
  refine ⟨hblank, ext, hext, ?_⟩
  rw [eq_idOfPath_of_isBlank hid hblank, ← heq]
  exact hpath

theorem isBlank_eq_false_of_contains {r : Registry}
    (hr : Registry.ofSource (documents w root) = .ok r) (hid : r.contains id = true)
    (hname : ¬IsBlankName w root id) : Text.isBlank id = false := by
  obtain ⟨hconsistent, ds, hds, hall⟩ := Registry.consistent_ofSource hr
  obtain ⟨d, hd⟩ := Option.isSome_iff_exists.mp hid
  have hentry : (id, d) ∈ r.documents.entries := Index.get?_eq_some_iff.mp hd
  obtain rfl : id = d.id := hconsistent.key_eq (id, d) hentry
  have hmem : d ∈ r.all := Registry.mem_all_iff.mpr ⟨_, hentry, rfl⟩
  by_contra hblank
  exact hname (isBlankName_of_mem_documents hds (hall d hmem) (by simpa using hblank))

end Discovery

namespace Spec

variable {ids : List DocumentId} {values : List Json}

/-- A value that is a reference to a document and gives it no label of its own. -/
inductive RefersTo : Json → DocumentId → Prop where
  | text {id : DocumentId} : RefersTo (.str id) id
  | entry {fields : List (String × Json)} {id : DocumentId} :
      fields.lookup "type" = some (.str "doc") → fields.lookup "id" = some (.str id) →
        fields.lookup "label" = none → RefersTo (.obj fields) id

/-- The items of a flat navigation. -/
def leaves (ids : List DocumentId) : List Item :=
  ids.map fun id => .doc id none

theorem ofTree_leaves {known : DocumentId → Bool} (hknown : ∀ id ∈ ids, known id = true)
    (trail : List String) :
    ParsedSpec.ofTree known trail (leaves ids) = { items := leaves ids } := by
  induction ids with
  | nil => rfl
  | cons id ids ih =>
      obtain ⟨hid, hrest⟩ := List.forall_mem_cons.mp hknown
      have hfirst : ParsedSpec.ofTree known trail [.doc id none] = { items := [.doc id none] } := by
        simp [ParsedSpec.ofTree, Item.pruneAll, Item.prune, Item.mentionsOf, Item.mentions,
          Item.childlessOf, Item.childless, hid]
      change ParsedSpec.ofTree known trail ([.doc id none] ++ leaves ids) = _
      rw [ParsedSpec.ofTree_append, hfirst, ih hrest]
      rfl

theorem idsOf_leaves (ids : List DocumentId) : Item.idsOf (leaves ids) = ids := by
  induction ids with
  | nil => rfl
  | cons id ids ih =>
      change Item.idsOf ([.doc id none] ++ leaves ids) = _
      rw [Item.idsOf_append, ih]
      rfl

/-- References are nodes by the grammar, and they declare leaves. -/
theorem wellFormed_of_refersTo (hrefers : List.Forall₂ RefersTo values ids)
    (hids : ∀ id ∈ ids, Text.isBlank id = false) :
    Outline.WellFormed values ∧ Json.declaredAll values = leaves ids := by
  induction hrefers with
  | nil => exact ⟨.nil, rfl⟩
  | cons hfirst _ ih =>
      obtain ⟨hid, hrest⟩ := List.forall_mem_cons.mp hids
      obtain ⟨hvalues, hdeclared⟩ := ih hrest
      rw [Json.declaredAll, hdeclared]
      cases hfirst with
      | text =>
          rw [Json.declared]
          exact ⟨.text hid hvalues, rfl⟩
      | entry htype hname hlabel =>
          have hentry : Outline.IsDocEntry _ _ none := ⟨htype, hname, hid, hlabel⟩
          rw [Json.declared_of_isDocEntry hentry]
          exact ⟨.docEntry hentry hvalues, rfl⟩

theorem parse_of_refersTo {spec : Json} {r : Registry}
    (hrefers : List.Forall₂ RefersTo (nodes spec) ids) (hnodup : ids.Nodup)
    (hids : ∀ id ∈ ids, Text.isBlank id = false) (hknown : ∀ id ∈ ids, r.contains id = true) :
    parse spec r = .ok { items := leaves ids } := by
  obtain ⟨hvalues, hdeclared⟩ := wellFormed_of_refersTo hrefers hids
  rw [parse_eq_ok_iff, declared, hdeclared, idsOf_leaves, ofTree_leaves hknown]
  exact ⟨Outline.allSound_ofJsonList_iff.mpr hvalues, hnodup.filter _, rfl⟩

/-- **A spec can refer to the documents of a search.** A reference to one of them, as a text or as
an object without a label, is read as its leaf, and a sequence of references to different ones is
read as their leaves in this order. The only ids that a spec cannot refer to are the blank names of
files directly in the docs directory. -/
theorem parse_registered {w : Workspace} {root : Path} {r : Registry}
    (hr : Registry.ofSource (Discovery.documents w root) = .ok r)
    (hknown : ∀ id ∈ ids, r.contains id = true)
    (hnames : ∀ id ∈ ids, ¬Discovery.IsBlankName w root id) :
    (∀ id ∈ ids, ∀ value, RefersTo value id → parse value r = .ok { items := [.doc id none] }) ∧
      (ids.Nodup → ∀ values, List.Forall₂ RefersTo values ids →
        parse (.arr values) r = .ok { items := ids.map fun id => .doc id none }) := by
  have hblank : ∀ id ∈ ids, Text.isBlank id = false := fun id hid =>
    Discovery.isBlank_eq_false_of_contains hr (hknown id hid) (hnames id hid)
  constructor
  · intro id hid value hrefers
    have hnodes : List.Forall₂ RefersTo (nodes value) [id] := by
      cases hrefers with
      | text => exact .cons .text .nil
      | entry htype hname hlabel => exact .cons (.entry htype hname hlabel) .nil
    exact parse_of_refersTo hnodes (List.nodup_singleton id) (by simpa using hblank id hid)
      (by simpa using hknown id hid)
  · intro hnodup values hrefers
    exact parse_of_refersTo hrefers hnodup hblank hknown

/-- A file that has a name of only white space, and a file in a folder whose front matter replaces
its name. -/
def namelessEntries : List (String × FileTree) :=
  [(" .md", .file (Text.encodeUtf8 "# Nameless\n")), ("b.mdx", .file []),
    ("c", .directory [(" .md", .file (Text.encodeUtf8 "---\nid: d e\n---\n"))])]

def nameless : Workspace where
  root := .directory [("docs", .directory namelessEntries)]
  cwd := []
  env := []

theorem documents_nameless :
    Discovery.documents nameless ⟨"docs"⟩ =
      .ok [⟨" ", "Nameless", some ⟨" .md"⟩, []⟩, ⟨"b", "B", some ⟨"b.mdx"⟩, []⟩,
        ⟨"c/d e", "", some ⟨"c/ .md"⟩, []⟩] := by
  have hpaths : Discovery.documentPaths nameless ⟨"docs"⟩ = [" .md", "b.mdx", "c/ .md"] :=
    Discovery.documentPaths_eq rfl (by decide +kernel) (by decide)
  rw [Discovery.documents, hpaths]
  decide +kernel

theorem parse_registered_sample :
    ∃ r, Registry.ofSource (Discovery.documents nameless ⟨"docs"⟩) = .ok r ∧
      (∀ id ∈ ["c/d e", "b"], r.contains id = true) ∧
      (∀ id ∈ ["c/d e", "b"], ¬Discovery.IsBlankName nameless ⟨"docs"⟩ id) ∧
      parse (.str "b") r = .ok { items := [.doc "b" none] } ∧
      parse (.arr [.obj [("id", .str "c/d e"), ("type", .str "doc")], .str "b"]) r =
        .ok { items := [.doc "c/d e" none, .doc "b" none] } := by
  obtain ⟨r, hr, hids⟩ : ∃ r, Registry.ofSource (Discovery.documents nameless ⟨"docs"⟩) = .ok r ∧
      ∀ id ∈ ["c/d e", "b"], r.contains id = true := by
    rw [documents_nameless]
    exact ⟨_, rfl, by decide⟩
  have hvisible : ∀ id ∈ ["c/d e", "b"], Text.isBlank id = false := by decide
  have hnames : ∀ id ∈ ["c/d e", "b"], ¬Discovery.IsBlankName nameless ⟨"docs"⟩ id := by
    intro id hid hname
    exact Bool.false_ne_true ((hvisible id hid).symm.trans hname.1)
  have hrefers : List.Forall₂ RefersTo
      [.obj [("id", .str "c/d e"), ("type", .str "doc")], .str "b"] ["c/d e", "b"] :=
    .cons (.entry rfl rfl rfl) (.cons .text .nil)
  obtain ⟨hsingle, hlist⟩ := parse_registered hr hids hnames
  exact ⟨r, hr, hids, hnames, hsingle "b" (by decide) _ .text, hlist (by decide) _ hrefers⟩

/-- The file with the blank name is registered, but a spec cannot refer to it. -/
theorem parse_blankId_of_registered :
    ∃ r, Registry.ofSource (Discovery.documents nameless ⟨"docs"⟩) = .ok r ∧
      r.contains " " = true ∧
      parse (.str " ") r = .error (.invalid ⟨"", []⟩ .blankId) := by
  rw [documents_nameless]
  exact ⟨_, rfl, by decide, rfl⟩

end Spec

end Signpost
