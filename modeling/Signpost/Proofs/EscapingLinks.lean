import Signpost.Proofs.BrokenLinks
import Signpost.Proofs.DocumentFolders

/-!
# Links that lead out of the docs directory

Folding two links one after the other is folding them as one. Seen from a directory without dots, a
link keeps as many steps up as it leads out above the top, at the worst place on its way, and no
later name takes one of them back. A folded path that begins with a step up is the path of no
document and the id of none, even if it leads down again into a directory that is called like the
one it came from.
-/

namespace Signpost.Link

open Discovery

/-- A name that leads down, without a slash. -/
structure IsPlain (name : String) : Prop where
  isDown : IsDown name
  slash_notMem : '/' ∉ name.toList

instance : DecidablePred IsPlain := fun name =>
  decidable_of_iff (IsDown name ∧ '/' ∉ name.toList)
    ⟨fun hname => ⟨hname.1, hname.2⟩, fun hname => ⟨hname.isDown, hname.slash_notMem⟩⟩

/-- No segment of the directory is a dot or two. -/
def IsUndotted (base : String) : Prop :=
  ∀ segment ∈ baseSegments base, segment ≠ "." ∧ segment ≠ ".."

instance : DecidablePred IsUndotted := fun base =>
  inferInstanceAs (Decidable (∀ segment ∈ baseSegments base, segment ≠ "." ∧ segment ≠ ".."))

/-- How far the pieces lead out above a directory of this depth: by how much the steps up outnumber
the names and the depth, in that beginning of the pieces where they do so most, and not at all if
they never do. -/
structure Escapes (depth : Nat) (pieces : List String) (count : Nat) : Prop where
  le : ∀ front, front <+: pieces →
    front.count ".." ≤ depth + front.countP (fun piece => IsDown piece) + count
  attained : count = 0 ∨ ∃ front, front <+: pieces ∧
    front.count ".." = depth + front.countP (fun piece => IsDown piece) + count

/-- What a link is read as: without its suffix, and decoded. -/
def readPath (link : String) : String :=
  Text.percentDecode (beforeSuffix link)

/-- A path that is checked: to a Markdown file, and neither from the root nor with a scheme. -/
structure IsCheckable (path : String) : Prop where
  hasStem : ∃ stem, HasStem path stem
  not_rooted : path.toList.head? ≠ some '/'
  no_scheme : ¬BeginsWithScheme path

/-! ### How many steps up are left -/

section Escapes

variable {depth count other : Nat} {pieces names : List String}

theorem Escapes.count_le (hescapes : Escapes depth pieces count)
    (hother : Escapes depth pieces other) : count ≤ other := by
  rcases hescapes.attained with rfl | ⟨front, hfront, hcount⟩
  · exact Nat.zero_le other
  · have hle := hother.le front hfront
    omega

theorem Escapes.unique (hescapes : Escapes depth pieces count)
    (hother : Escapes depth pieces other) : count = other :=
  Nat.le_antisymm (hescapes.count_le hother) (hother.count_le hescapes)

/-- After the pieces, these steps up and names are left. Names and steps up balance: what was taken
off is what is not left. -/
structure Leaves (depth : Nat) (pieces : List String) (count : Nat) (names : List String) :
    Prop where
  isDown : ∀ name ∈ names, IsDown name
  balance : pieces.count ".." + names.length =
    depth + pieces.countP (fun piece => IsDown piece) + count
  escapes : Escapes depth pieces count

theorem leaves_nil (hnames : ∀ name ∈ names, IsDown name) : Leaves names.length [] 0 names where
  isDown := hnames
  balance := by simp
  escapes := ⟨fun front hfront => by simp [List.prefix_nil.mp hfront], .inl rfl⟩

/-- One more piece leads out no further, unless it is a step up where no name is left. -/
theorem Leaves.concat {rest : List String} {piece : String}
    (hleaves : Leaves depth pieces count names)
    (hrest : ∀ name ∈ rest, IsDown name)
    (hbalance : (pieces ++ [piece]).count ".." + rest.length =
      depth + (pieces ++ [piece]).countP (fun piece => IsDown piece) + other)
    (hother : other = count ∨ other = count + 1 ∧ rest = []) :
    Leaves depth (pieces ++ [piece]) other rest where
  isDown := hrest
  balance := hbalance
  escapes := by
    refine ⟨fun front hfront => ?_, ?_⟩
    · rcases List.prefix_concat_iff.mp hfront with rfl | hbefore
      · omega
      · have hle := hleaves.escapes.le front hbefore
        omega
    · rcases hother with rfl | ⟨rfl, rfl⟩
      · exact hleaves.escapes.attained.imp_right fun ⟨front, hfront, hcount⟩ =>
          ⟨front, hfront.trans (List.prefix_append pieces [piece]), hcount⟩
      · exact .inr ⟨_, List.prefix_rfl, by simpa using hbalance⟩

/-- Three kinds of pieces: an idle one, a step up, and a name. -/
theorem Leaves.walkStep (hleaves : Leaves depth pieces count names) (piece : String) :
    ∃ other rest, walkStep (List.replicate count ".." ++ names) piece =
        List.replicate other ".." ++ rest ∧
      Leaves depth (pieces ++ [piece]) other rest := by
  have hbalance := hleaves.balance
  have hups : (pieces ++ [piece]).count ".." = pieces.count ".." + [piece].count ".." :=
    List.count_append
  have hdowns : (pieces ++ [piece]).countP (fun piece => IsDown piece) =
      pieces.countP (fun piece => IsDown piece) + [piece].countP (fun piece => IsDown piece) :=
    List.countP_append
  by_cases hidle : Path.isIdle piece = true
  · have hup : [piece].count ".." = 0 := by
      rw [List.count_singleton, if_neg]
      rintro heq
      rw [eq_of_beq heq] at hidle
      exact absurd hidle (by decide)
    have hdown : [piece].countP (fun piece => IsDown piece) = 0 := by
      have hnot : ¬IsDown piece := fun hpiece => by simp [hpiece.isIdle_eq] at hidle
      simp [hnot]
    refine ⟨count, names, walkStep_of_isIdle hidle _, hleaves.concat hleaves.isDown ?_ (.inl rfl)⟩
    omega
  · by_cases hpiece : piece = ".."
    · subst hpiece
      have hup : [".."].count ".." = 1 := by decide
      have hdown : [".."].countP (fun piece => IsDown piece) = 0 := by decide
      rcases List.eq_nil_or_concat' names with rfl | ⟨front, last, rfl⟩
      · refine ⟨count + 1, [], ?_, hleaves.concat (by simp) ?_ (.inr ⟨rfl, rfl⟩)⟩
        · rw [List.append_nil, List.append_nil, walkStep_up_replicate]
        · rw [List.length_nil] at hbalance ⊢
          omega
      · have hlast : IsDown last := hleaves.isDown last (by simp)
        refine ⟨count, front, ?_, hleaves.concat ?_ ?_ (.inl rfl)⟩
        · rw [← List.append_assoc, walkStep_up_of_isDown hlast]
        · exact fun name hname => hleaves.isDown name (List.mem_append_left [last] hname)
        · rw [List.length_append, List.length_singleton] at hbalance
          omega
    · have hname : IsDown piece := ⟨by simpa using hidle, hpiece⟩
      have hup : [piece].count ".." = 0 := by simp [hpiece]
      have hdown : [piece].countP (fun piece => IsDown piece) = 1 := by simp [hname]
      refine ⟨count, names ++ [piece], ?_, hleaves.concat ?_ ?_ (.inl rfl)⟩
      · rw [walkStep_of_isDown hname, List.append_assoc]
      · rw [List.forall_mem_append, List.forall_mem_singleton]
        exact ⟨hleaves.isDown, hname⟩
      · rw [List.length_append, List.length_singleton]
        omega

/-- A walk from names leaves the steps up by which it leads out. -/
theorem exists_leaves_foldl (hnames : ∀ name ∈ names, IsDown name) (pieces : List String) :
    ∃ count rest, pieces.foldl walkStep names = List.replicate count ".." ++ rest ∧
      Leaves names.length pieces count rest := by
  induction pieces using List.reverseRecOn with
  | nil => exact ⟨0, names, rfl, leaves_nil hnames⟩
  | append_singleton pieces piece ih =>
      obtain ⟨count, rest, hfold, hleaves⟩ := ih
      obtain ⟨other, left, hstep, hlast⟩ := hleaves.walkStep piece
      exact ⟨other, left, by rw [List.foldl_append, hfold, List.foldl_cons, hstep, List.foldl_nil],
        hlast⟩

end Escapes

/-! ### Segments that are joined and cut again -/

theorem isName_of_mem_baseSegments {base segment : String} (hmem : segment ∈ baseSegments base) :
    FileTree.IsName segment := by
  obtain ⟨hcut, hne⟩ := List.mem_filter.mp hmem
  exact ⟨by simpa using hne, Text.notMem_of_mem_cut hcut⟩

theorem IsPlain.isName {name : String} (hname : IsPlain name) : FileTree.IsName name := by
  refine ⟨?_, hname.slash_notMem⟩
  rintro rfl
  exact absurd hname.isDown.isIdle_eq (by decide)

/-- What a walk over the segments of a link leaves can be cut again. -/
theorem isName_of_mem_foldl_walkStep {segments : List String}
    (hsegments : ∀ segment ∈ segments, FileTree.IsName segment) {link segment : String}
    (hmem : segment ∈ (Text.cut '/' link).foldl walkStep segments) : FileTree.IsName segment := by
  rcases mem_foldl_walkStep hmem with hold | ⟨hcut, hbusy⟩
  · exact hsegments segment hold
  · refine ⟨?_, Text.notMem_of_mem_cut hcut⟩
    rintro rfl
    exact absurd hbusy (by decide)

theorem baseSegments_normalize (base link : String) :
    baseSegments (normalize base link) = (Text.cut '/' link).foldl walkStep (baseSegments base) :=
  baseSegments_join_of_isName fun _ hsegment =>
    isName_of_mem_foldl_walkStep (fun _ hmem => isName_of_mem_baseSegments hmem) hsegment

/-- Two links one after the other are one link. -/
theorem normalize_normalize (base first second : String) :
    normalize (normalize base first) second = normalize base (first ++ "/" ++ second) := by
  have hcut : Text.cut '/' (first ++ "/" ++ second) = Text.cut '/' first ++ Text.cut '/' second :=
    Text.cut_append_singleton '/' first second
  rw [normalize, baseSegments_normalize, normalize, hcut, List.foldl_append]

theorem normalize_join {names : List String} (hnames : ∀ name ∈ names, FileTree.IsName name)
    {pieces : List String} (hpieces : ∀ piece ∈ pieces, '/' ∉ piece.toList) :
    normalize (Text.join "/" names) (Text.join "/" pieces) =
      Text.join "/" (pieces.foldl walkStep names) := by
  rw [normalize, baseSegments_join_of_isName hnames, foldl_walkStep_cut_join hpieces]

theorem slash_notMem_of_isPlain {count : Nat} {names : List String}
    (hnames : ∀ name ∈ names, IsPlain name) :
    ∀ piece ∈ List.replicate count ".." ++ names, '/' ∉ piece.toList := by
  intro piece hpiece
  rcases List.mem_append.mp hpiece with hup | hname
  · rw [List.eq_of_mem_replicate hup]
    decide
  · exact (hnames piece hname).slash_notMem

theorem normalize_empty_join {count : Nat} {names : List String}
    (hnames : ∀ name ∈ names, IsPlain name) :
    normalize "" (Text.join "/" (List.replicate count ".." ++ names)) =
      Text.join "/" (List.replicate count ".." ++ names) := by
  have hfolded : IsFolded (List.replicate count ".." ++ names) :=
    ⟨count, names, rfl, fun name hname => (hnames name hname).isDown⟩
  have hempty : ∀ name ∈ ([] : List String), FileTree.IsName name := by simp
  calc normalize "" (Text.join "/" (List.replicate count ".." ++ names))
      = Text.join "/" ((List.replicate count ".." ++ names).foldl walkStep []) :=
        normalize_join hempty (slash_notMem_of_isPlain hnames)
    _ = Text.join "/" (List.replicate count ".." ++ names) := by
        rw [foldl_walkStep_of_isFolded hfolded]

/-- Up from a directory and down into another one. -/
theorem normalize_up_down {folder names : List String} (hfolder : ∀ name ∈ folder, IsPlain name)
    (hnames : ∀ name ∈ names, IsPlain name) :
    normalize (Text.join "/" folder)
        (Text.join "/" (List.replicate folder.length ".." ++ names)) =
      Text.join "/" names := by
  have hup := foldl_walkStep_up (fun name hname => (hfolder name hname).isDown) []
  rw [List.nil_append] at hup
  have hdown := foldl_walkStep_of_isDown (fun name hname => (hnames name hname).isDown) []
  rw [List.nil_append] at hdown
  calc normalize (Text.join "/" folder)
        (Text.join "/" (List.replicate folder.length ".." ++ names))
      = Text.join "/" ((List.replicate folder.length ".." ++ names).foldl walkStep folder) :=
        normalize_join (fun name hname => (hfolder name hname).isName)
          (slash_notMem_of_isPlain hnames)
    _ = Text.join "/" names := by rw [List.foldl_append, hup, hdown]

/-- The steps up and the names that are left of a link are the pieces of a path. -/
theorem arePieces_of_isPlain {count : Nat} {names : List String}
    (hnames : ∀ name ∈ names, IsPlain name) (hne : List.replicate count ".." ++ names ≠ []) :
    Path.ArePieces (List.replicate count ".." ++ names) where
  ne_nil := hne
  isIdle_eq := by
    intro name hname
    rcases List.mem_append.mp hname with hup | hdown
    · rw [List.eq_of_mem_replicate hup]
      decide
    · exact (hnames name hdown).isDown.isIdle_eq
  slash_notMem := slash_notMem_of_isPlain hnames

/-- A folded link keeps the steps up by which it leads out, and names behind them. -/
theorem exists_normalize_eq {base : String} (hbase : IsUndotted base) (link : String) :
    ∃ count names, normalize base link = Text.join "/" (List.replicate count ".." ++ names) ∧
      (∀ name ∈ names, IsPlain name) ∧
      Escapes (baseSegments base).length (Text.cut '/' link) count := by
  have hdown : ∀ segment ∈ baseSegments base, IsDown segment := by
    intro segment hsegment
    have hne := (isName_of_mem_baseSegments hsegment).1
    obtain ⟨hhere, hup⟩ := hbase segment hsegment
    exact ⟨by simp [Path.isIdle, hne, hhere], hup⟩
  obtain ⟨count, names, hfold, hleaves⟩ := exists_leaves_foldl hdown (Text.cut '/' link)
  refine ⟨count, names, by rw [normalize, hfold], fun name hname => ?_, hleaves.escapes⟩
  have hmem : name ∈ (Text.cut '/' link).foldl walkStep (baseSegments base) := by
    rw [hfold]
    exact List.mem_append_right _ hname
  have hisName := isName_of_mem_foldl_walkStep (fun _ => isName_of_mem_baseSegments) hmem
  exact ⟨hleaves.isDown name hname, hisName.2⟩

/-! ### What a link that leads out names -/

section Reports

variable {w : Workspace} {root : Path} {r : Registry} {ds : List Document} {d : Document}
  {path link stem : String}

theorem isMarkdown_iff : isMarkdown path = true ↔ ∃ stem, HasStem path stem := by
  constructor
  · intro hmarkdown
    obtain ⟨ext, hext, hends⟩ := List.any_eq_true.mp hmarkdown
    obtain ⟨stem, rfl⟩ := Text.endsWith_iff.mp hends
    have hcases : ext = ".md" ∨ ext = ".mdx" := by simpa [extensions] using hext
    rcases hcases with rfl | rfl
    · exact ⟨stem, .inl rfl⟩
    · exact ⟨stem, .inr rfl⟩
  · rintro ⟨stem, hstem⟩
    exact isMarkdown_of_hasStem hstem

theorem beginsWith_slash_iff : Text.beginsWith path "/" = true ↔ path.toList.head? = some '/' := by
  rw [Text.beginsWith_iff, List.head?_eq_some_iff]
  rfl

theorem target?_eq_some_iff {target : String} :
    target? d link = some target ↔
      IsCheckable (readPath link) ∧ target = normalize d.linkBase (readPath link) := by
  have htarget : target? d link =
      if readPath link = "" || Text.beginsWith (readPath link) "/" || hasScheme (readPath link) then
        none
      else if isMarkdown (readPath link) then some (normalize d.linkBase (readPath link))
      else none := rfl
  rw [htarget]
  constructor
  · intro hsome
    split at hsome
    · cases hsome
    · rename_i hchecked
      simp only [Bool.or_eq_true, decide_eq_true_eq, not_or] at hchecked
      obtain ⟨⟨-, hbegins⟩, hscheme⟩ := hchecked
      rw [beginsWith_slash_iff] at hbegins
      rw [hasScheme_iff] at hscheme
      split at hsome
      · rename_i hmarkdown
        exact ⟨⟨isMarkdown_iff.mp hmarkdown, hbegins, hscheme⟩, (Option.some.inj hsome).symm⟩
      · cases hsome
  · rintro ⟨⟨hstem, hrooted, hscheme⟩, hpath⟩
    have hne : readPath link ≠ "" := by
      obtain ⟨stem, hends | hends⟩ := hstem <;> simp [hends]
    have hbegins : Text.beginsWith (readPath link) "/" = false := by
      rw [← Bool.not_eq_true, beginsWith_slash_iff]
      exact hrooted
    rw [← hasScheme_iff, Bool.not_eq_true] at hscheme
    simp [hne, hbegins, hscheme, isMarkdown_iff.mpr hstem, hpath]

/-- The ending of a Markdown file stands behind the last slash. -/
theorem dropLast_cut_of_hasStem (hstem : HasStem path stem) :
    (Text.cut '/' stem).dropLast = (Text.cut '/' path).dropLast ∧
      ∃ last ∈ (Text.cut '/' path).getLast?, IsDown last := by
  have hending (tail : String) (htail : '/' ∉ tail.toList) (hlength : 3 ≤ tail.length) :
      (Text.cut '/' stem).dropLast = (Text.cut '/' (stem ++ tail)).dropLast ∧
        ∃ last ∈ (Text.cut '/' (stem ++ tail)).getLast?, IsDown last := by
    obtain ⟨front, last, hfront, hall⟩ := Text.cut_append stem htail
    rw [hfront, hall, List.dropLast_concat, List.dropLast_concat, List.getLast?_concat]
    exact ⟨rfl, last ++ tail, rfl, isDown_append last hlength⟩
  rcases hstem with rfl | rfl
  · exact hending ".md" (by decide) (by decide)
  · exact hending ".mdx" (by decide) (by decide)

/-- Above the docs directory is no document, neither by its file nor by its id. -/
theorem resolve?_eq_none_of_up (hproper : ∀ tree, w.find root = .ok tree → tree.ProperlyNamed)
    (hds : documents w root = .ok ds) (hregister : Registry.ofDocuments ds = .ok r)
    {rest : List String} (hroute : Path.ArePieces (".." :: rest))
    (hstem : HasStem (Text.join "/" (".." :: rest)) stem) :
    resolve? r (Text.join "/" (".." :: rest)) = none := by
  have hfiled : ∀ e ∈ ds, e.IsFiled := fun e he => isFiled_of_mem_documents hproper hds he
  obtain ⟨hfolder, last, hlast, hdown⟩ := dropLast_cut_of_hasStem hstem
  rw [hroute.cut_join_eq] at hfolder hlast
  refine resolve?_eq_none hregister hfiled hroute hstem fun e he => ⟨fun hsource => ?_, ?_⟩
  · have hpath : e.route = ".." :: rest := by
      rw [Document.route, hsource]
      exact hroute.cut_join_eq
    have hvisible : IsVisible ".." :=
      (hfiled e he).isRoute.visible ".." (hpath ▸ List.mem_cons_self)
    exact hvisible.ne_up rfl
  · rintro rfl
    -- the step up is not the last of the pieces, so it is one of the folders
    have hrest : rest ≠ [] := by
      rintro rfl
      cases hlast
      exact hdown.ne_up rfl
    have hmem : ".." ∈ e.folder := by
      rw [← dropLast_cut_id hproper hds he, hfolder, List.dropLast_cons_of_ne_nil hrest]
      exact List.mem_cons_self
    exact ((hfiled e he).visible ".." hmem).ne_up rfl

/-- A link that leads out of the docs directory is reported. -/
theorem checkLink_of_escapes (hproper : ∀ tree, w.find root = .ok tree → tree.ProperlyNamed)
    (hds : documents w root = .ok ds) (hregister : Registry.ofDocuments ds = .ok r)
    (hbase : IsUndotted d.linkBase) (hlink : IsCheckable (readPath link))
    {count : Nat} (hescapes : Escapes (baseSegments d.linkBase).length
      (Text.cut '/' (readPath link)) count) (hcount : 0 < count) :
    ∃ stem, HasStem (normalize d.linkBase (readPath link)) stem ∧
      checkLink r d link = some ⟨stem, .link d.id⟩ := by
  have htarget : target? d link = some (normalize d.linkBase (readPath link)) :=
    target?_eq_some_iff.mpr ⟨hlink, rfl⟩
  obtain ⟨⟨front, hfront⟩, -, -⟩ := hlink
  obtain ⟨other, names, hpath, hnames, hother⟩ :=
    exists_normalize_eq hbase (readPath link)
  obtain rfl : other = count := hother.unique hescapes
  obtain ⟨stem, hstem⟩ := exists_hasStem_foldl hfront (baseSegments d.linkBase)
  change HasStem (normalize d.linkBase (readPath link)) stem at hstem
  obtain ⟨ups, rfl⟩ := Nat.exists_eq_succ_of_ne_zero (Nat.pos_iff_ne_zero.mp hcount)
  have hroute : Path.ArePieces (List.replicate (ups + 1) ".." ++ names) :=
    arePieces_of_isPlain hnames (by simp)
  rw [List.replicate_succ, List.cons_append] at hpath hroute
  refine ⟨stem, hstem, ?_⟩
  have hnone : resolve? r (normalize d.linkBase (readPath link)) = none := by
    rw [hpath] at hstem ⊢
    exact resolve?_eq_none_of_up hproper hds hregister hroute hstem
  simp [checkLink, htarget, hnone, conventionalId_of_hasStem hstem]

end Reports

/-- **Links are folded without looking at any file.** Two links one after the other fold like one.
Seen from a directory without dots, what is left is as many steps up as the link leads out above the
top, and names; folding that again changes nothing. Going up once for each name of a directory and
down again leads to where one goes down. In a registry of the documents below a directory, a link
that leads out above it is reported, wherever it goes from there. -/
theorem normalize_lexically :
    (∀ base first second,
      normalize (normalize base first) second = normalize base (first ++ "/" ++ second)) ∧
    (∀ base, IsUndotted base → ∀ link, ∃ count names,
      normalize base link = Text.join "/" (List.replicate count ".." ++ names) ∧
      (∀ name ∈ names, IsPlain name) ∧
      Escapes (baseSegments base).length (Text.cut '/' link) count) ∧
    (∀ count names, (∀ name ∈ names, IsPlain name) →
      normalize "" (Text.join "/" (List.replicate count ".." ++ names)) =
        Text.join "/" (List.replicate count ".." ++ names)) ∧
    (∀ folder names, (∀ name ∈ folder, IsPlain name) → (∀ name ∈ names, IsPlain name) →
      normalize (Text.join "/" folder)
          (Text.join "/" (List.replicate folder.length ".." ++ names)) =
        Text.join "/" names) ∧
    ∀ w root r, w.root.ProperlyNamed → Registry.ofSource (documents w root) = .ok r →
      ∀ d ∈ r.all, IsUndotted d.linkBase → ∀ link ∈ d.links, IsCheckable (readPath link) →
        ∀ count, Escapes (baseSegments d.linkBase).length
          (Text.cut '/' (readPath link)) count → 0 < count →
        ∃ stem, HasStem (normalize d.linkBase (readPath link)) stem ∧
          checkLink r d link = some ⟨stem, .link d.id⟩ ∧ ⟨stem, .link d.id⟩ ∈ check r := by
  refine ⟨normalize_normalize, fun base hbase link => exists_normalize_eq hbase link,
    fun count names hnames => normalize_empty_join hnames,
    fun folder names hfolder hnames => normalize_up_down hfolder hnames, ?_⟩
  intro w root r hroot hr d hd hbase link hlink hcheckable count hescapes hcount
  obtain ⟨-, ds, hds, -⟩ := Registry.consistent_ofSource hr
  have hregister : Registry.ofDocuments ds = .ok r := by
    rw [hds] at hr
    exact hr
  have hproper : ∀ tree, w.find root = .ok tree → tree.ProperlyNamed :=
    fun _ hfind => Workspace.properlyNamed_find hroot hfind
  obtain ⟨stem, hstem, hreport⟩ :=
    checkLink_of_escapes hproper hds hregister hbase hcheckable hescapes hcount
  exact ⟨stem, hstem, hreport, mem_check_iff.mpr ⟨d, hd, link, hlink, hreport⟩⟩

/-- A file in a folder, with a link that leads out of the docs directory and by its name back to the
same file. -/
def roundAbout : Workspace where
  root := .directory [("docs", .directory [("c", .directory
    [("d.md", .file (Text.encodeUtf8 "# D\n[](./../../docs/c/d.md#t)"))])])]
  cwd := []
  env := []

theorem documents_roundAbout :
    documents roundAbout ⟨"docs"⟩ =
      .ok [⟨"c/d", "D", some ⟨"c/d.md"⟩, ["./../../docs/c/d.md#t"]⟩] := by
  have hpaths : documentPaths roundAbout ⟨"docs"⟩ = ["c/d.md"] :=
    documentPaths_eq rfl (by decide +kernel) (by decide)
  rw [documents, hpaths]
  decide +kernel

theorem escapes_roundAbout : Escapes 1 [".", "..", "..", "docs", "c", "d.md"] 1 where
  le := by
    intro front hfront
    rw [← List.mem_inits] at hfront
    revert front
    decide
  attained := .inr ⟨[".", "..", ".."], ⟨_, rfl⟩, by decide⟩

/-- The link is reported with the step up that is left of it. -/
theorem normalize_lexically_sample :
    roundAbout.root.ProperlyNamed ∧
      normalize (normalize "c" "./../..") "docs/c/d.md" = "../docs/c/d.md" ∧
      normalize "" "../docs/c/d.md" = "../docs/c/d.md" ∧
      normalize "a/b" "../../c/d.md" = "c/d.md" ∧
      ∃ r d, Registry.ofSource (documents roundAbout ⟨"docs"⟩) = .ok r ∧ d ∈ r.all ∧
        IsUndotted d.linkBase ∧ "./../../docs/c/d.md#t" ∈ d.links ∧
        IsCheckable (readPath "./../../docs/c/d.md#t") ∧
        checkLink r d "./../../docs/c/d.md#t" = some ⟨"../docs/c/d", .link d.id⟩ ∧
        ⟨"../docs/c/d", .link d.id⟩ ∈ check r := by
  obtain ⟨r, hr, hall⟩ : ∃ r, Registry.ofSource (documents roundAbout ⟨"docs"⟩) = .ok r ∧
      r.all = [⟨"c/d", "D", some ⟨"c/d.md"⟩, ["./../../docs/c/d.md#t"]⟩] := by
    rw [documents_roundAbout]
    exact ⟨_, rfl, by decide⟩
  have hroot : roundAbout.root.ProperlyNamed := by simp [roundAbout, FileTree.IsName]
  have hd : ⟨"c/d", "D", some ⟨"c/d.md"⟩, ["./../../docs/c/d.md#t"]⟩ ∈ r.all := by simp [hall]
  obtain ⟨hcompose, -, hfolded, hupDown, hreported⟩ := normalize_lexically
  have hpath : readPath "./../../docs/c/d.md#t" = "./../../docs/c/d.md" := by decide
  have hcheckable : IsCheckable (readPath "./../../docs/c/d.md#t") := by
    rw [hpath]
    refine ⟨⟨"./../../docs/c/d", .inl rfl⟩, by decide, ?_⟩
    rw [← hasScheme_iff]
    decide
  have hbase : IsUndotted "c" := by decide
  have hescapes : Escapes 1 (Text.cut '/' (readPath "./../../docs/c/d.md#t")) 1 := by
    rw [hpath]
    exact escapes_roundAbout
  obtain ⟨stem, hstem, hreport, hcheck⟩ :=
    hreported _ _ r hroot hr _ hd hbase _ (by decide) hcheckable 1 hescapes Nat.one_pos
  have hid : stem = "../docs/c/d" := (conventionalId_of_hasStem hstem).symm.trans (by decide)
  subst hid
  have hplain : ∀ name ∈ ["docs", "c", "d.md"], IsPlain name := by decide
  exact ⟨hroot, (hcompose _ _ _).trans (by decide), hfolded 1 _ hplain,
    hupDown ["a", "b"] ["c", "d.md"] (by decide) (by decide), r, _, hr, hd, hbase, by decide,
    hcheckable, hreport, hcheck⟩

end Signpost.Link
