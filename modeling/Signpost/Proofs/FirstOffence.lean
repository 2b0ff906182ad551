import Signpost.Proofs.NodePlaces
import Signpost.Proofs.SpecReading

/-!
# The node that an error points at

A spec is read in document order, and reading stops at the first node that offends: one that is
malformed in its own fields, or that refers to a known document once more. The error tells which of
the two it is and names the place of that node. What has been seen on the way are the known
documents among those that the nodes before it refer to.
-/

namespace Signpost

namespace Json

/-- The value is a node as far as its own fields tell. The nodes below it are not looked at. -/
def IsShaped : Json → Prop
  | .str id => Text.isBlank id = false
  | .obj fields =>
    (∃ id label, Outline.IsDocEntry fields id label) ∨
      ∃ label collapsed values, Outline.IsCategory fields label collapsed ∧
        fields.lookup "items" = some (.arr values)
  | .null | .bool _ | .num _ | .arr _ => False

/-- The document that a node refers to. -/
def referredId? : Json → Option DocumentId
  | .str id => some id
  | .obj fields => if textUnder? "type" fields = some "doc" then textUnder? "id" fields else none
  | .null | .bool _ | .num _ | .arr _ => none

theorem referredId?_of_isDocEntry {fields : List (String × Json)} {id : DocumentId}
    {label : Option String} (hentry : Outline.IsDocEntry fields id label) :
    referredId? (.obj fields) = some id := by
  rw [referredId?, if_pos (textUnder?_of_lookup hentry.type_eq), textUnder?_of_lookup hentry.id_eq]

theorem referredId?_of_isCategory {fields : List (String × Json)} {label : String}
    {collapsed : Bool} (hcategory : Outline.IsCategory fields label collapsed) :
    referredId? (.obj fields) = none := by
  rw [referredId?, if_neg (textUnder?_type_ne_doc hcategory)]

end Json

namespace Outline

/-- One of the nodes refers to the document. -/
def IsReferredIn (nodes : List PlacedNode) (id : DocumentId) : Prop :=
  ∃ node ∈ nodes, node.value.referredId? = some id

/-- The value refers to a known document that one of the nodes before it refers to. -/
def Repeats (known : DocumentId → Bool) (before : List PlacedNode) (value : Json)
    (id : DocumentId) : Prop :=
  value.referredId? = some id ∧ known id = true ∧ IsReferredIn before id

/-- The value is at fault where it stands, after these nodes. -/
def Offends (known : DocumentId → Bool) (before : List PlacedNode) (value : Json) : Prop :=
  ¬value.IsShaped ∨ ∃ id, Repeats known before value id

/-- None of the nodes that follow offends. -/
def Blameless (known : DocumentId → Bool) : List PlacedNode → List PlacedNode → Prop
  | _, [] => True
  | before, node :: nodes =>
    ¬Offends known before node.value ∧ Blameless known (before ++ [node]) nodes

/-- The error is the right one for a node that offends. -/
def Blames (known : DocumentId → Bool) (before : List PlacedNode) (node : PlacedNode) :
    SpecError → Prop
  | .invalid location _ => location = ⟨"", node.steps⟩ ∧ ¬node.value.IsShaped
  | .duplicateReference id location =>
    location = ⟨"", node.steps⟩ ∧ node.value.IsShaped ∧ Repeats known before node.value id

/-- The documents that were seen are those that the nodes refer to, as far as they are known. -/
def Agrees (known : DocumentId → Bool) (seen : List DocumentId) (nodes : List PlacedNode) : Prop :=
  ∀ id, known id = true → (id ∈ seen ↔ IsReferredIn nodes id)

/-- What the outcome of a reading tells of the nodes that were to be read, after those before them.
If it succeeds, none of them offends. If it fails, the error blames the first one that does. -/
def Tells (known : DocumentId → Bool) (before nodes : List PlacedNode) :
    Except SpecError (List DocumentId) → Prop
  | .ok seen => Blameless known before nodes ∧ Agrees known seen (before ++ nodes)
  | .error cause => ∃ front node back, nodes = front ++ node :: back ∧
      Blameless known before front ∧ Blames known (before ++ front) node cause

/-- The documents that have been seen when a reading is done. -/
def seenAfter (seen : List DocumentId) (result : Except SpecError ParsedSpec) :
    Except SpecError (List DocumentId) :=
  result.map fun parsed => seen ++ Item.idsOf parsed.items

variable {known : DocumentId → Bool} {seen : List DocumentId} {before front nodes : List PlacedNode}
  {node : PlacedNode} {value : Json} {steps : List SpecStep} {trail : List String}

theorem isReferredIn_append_singleton {id : DocumentId} :
    IsReferredIn (before ++ [node]) id ↔
      IsReferredIn before id ∨ node.value.referredId? = some id := by
  simp [IsReferredIn, or_and_right, exists_or]

theorem Agrees.of_referredId?_eq_none (hagrees : Agrees known seen before)
    (hnone : node.value.referredId? = none) : Agrees known seen (before ++ [node]) := by
  intro id hknown
  rw [isReferredIn_append_singleton, hagrees id hknown, hnone]
  simp

theorem blameless_append :
    Blameless known before (front ++ nodes) ↔
      Blameless known before front ∧ Blameless known (before ++ front) nodes := by
  induction front generalizing before with
  | nil => simp [Blameless]
  | cons node front ih =>
      rw [List.cons_append, Blameless, ih, Blameless, List.append_assoc, List.singleton_append,
        and_assoc]

section Blames

variable {cause : SpecError} (hblames : Blames known before node cause)
include hblames

theorem Blames.location_eq : cause.location = ⟨"", node.steps⟩ := by
  cases cause with
  | invalid location fault => exact hblames.1
  | duplicateReference id location => exact hblames.1

theorem Blames.offends : Offends known before node.value := by
  cases cause with
  | invalid location fault => exact .inl hblames.2
  | duplicateReference id location => exact .inr ⟨id, hblames.2.2⟩

theorem Blames.invalid_or_duplicate :
    (∃ fault, cause = .invalid ⟨"", node.steps⟩ fault ∧ ¬node.value.IsShaped) ∨
      ∃ id, cause = .duplicateReference id ⟨"", node.steps⟩ ∧ node.value.IsShaped ∧
        Repeats known before node.value id := by
  cases cause with
  | invalid location fault =>
      obtain ⟨rfl, hnotShaped⟩ := hblames
      exact .inl ⟨fault, rfl, hnotShaped⟩
  | duplicateReference id location =>
      obtain ⟨rfl, hshaped, hrepeats⟩ := hblames
      exact .inr ⟨id, rfl, hshaped, hrepeats⟩

end Blames

/-- Where nothing offends in front, what is told of the nodes that follow is told of all. -/
theorem Tells.prepend {outcome : Except SpecError (List DocumentId)}
    (hfront : Blameless known before front) (htells : Tells known (before ++ front) nodes outcome) :
    Tells known before (front ++ nodes) outcome := by
  cases outcome with
  | ok seen =>
      obtain ⟨hblameless, hagrees⟩ := htells
      refine ⟨blameless_append.mpr ⟨hfront, hblameless⟩, ?_⟩
      rwa [← List.append_assoc]
  | error cause =>
      obtain ⟨middle, node, back, rfl, hblameless, hblames⟩ := htells
      refine ⟨front ++ middle, node, back, by rw [List.append_assoc], ?_, ?_⟩
      · exact blameless_append.mpr ⟨hfront, hblameless⟩
      · rwa [← List.append_assoc]

/-- An error in front is the error of all. -/
theorem Tells.append_error {cause : SpecError} (htells : Tells known before front (.error cause))
    (nodes : List PlacedNode) : Tells known before (front ++ nodes) (.error cause) := by
  obtain ⟨middle, node, back, rfl, hblameless, hblames⟩ := htells
  exact ⟨middle, node, back ++ nodes, by simp, hblameless, hblames⟩

theorem seenAfter_group {location : SpecLocation} {label : String} {collapsed : Bool}
    {entries : List Outline} :
    seenAfter seen (read known trail location seen (.group label collapsed entries)) =
      seenAfter seen (readAll known (trail ++ [label]) (fun i => location.below (.item i)) 0 seen
        entries) := by
  rw [read]
  cases readAll known (trail ++ [label]) (fun i => location.below (.item i)) 0 seen entries with
  | error cause => rfl
  | ok inner => simp [seenAfter, Except.map, Item.idsOf, Item.ids]

theorem seenAfter_cons {place : Nat → SpecLocation} {index : Nat} {first : ParsedSpec}
    {entry : Outline} {entries : List Outline}
    (hread : read known trail (place index) seen entry = .ok first) :
    seenAfter seen (readAll known trail place index seen (entry :: entries)) =
      seenAfter (seen ++ Item.idsOf first.items)
        (readAll known trail place (index + 1) (seen ++ Item.idsOf first.items) entries) := by
  rw [readAll, hread]
  dsimp only
  cases readAll known trail place (index + 1) (seen ++ Item.idsOf first.items) entries with
  | error cause => rfl
  | ok rest =>
      have hids : Item.idsOf (first ++ rest).items =
          Item.idsOf first.items ++ Item.idsOf rest.items := Item.idsOf_append _ _
      simp [seenAfter, Except.map, hids]

/-- A shaped node that refers to a document offends exactly if the document is known and has been
seen. -/
theorem tells_reference {id : DocumentId} {label : Option String} (hshaped : value.IsShaped)
    (hid : value.referredId? = some id) (hagrees : Agrees known seen before) :
    Tells known before [⟨steps, value⟩]
      (seenAfter seen (read known trail ⟨"", steps⟩ seen (.reference id label))) := by
  have hblameless (hfresh : ¬Repeats known before value id) :
      Blameless known before [⟨steps, value⟩] := by
    refine ⟨?_, trivial⟩
    rintro (hnotShaped | ⟨other, hrepeats⟩)
    · exact hnotShaped hshaped
    · obtain rfl : id = other := Option.some.inj (hid.symm.trans hrepeats.1)
      exact hfresh hrepeats
  unfold read
  cases hknown : known id with
  | false =>
      refine ⟨hblameless fun hrepeats => ?_, fun other hother => ?_⟩
      · rw [hrepeats.2.1] at hknown
        exact absurd hknown (by decide)
      · have hne : id ≠ other := by
          rintro rfl
          rw [hother] at hknown
          exact absurd hknown (by decide)
        rw [isReferredIn_append_singleton, ← hagrees other hother, hid]
        simp [Item.idsOf, hne]
  | true =>
      by_cases hmem : id ∈ seen
      · rw [if_pos rfl, if_pos hmem]
        refine ⟨[], ⟨steps, value⟩, [], rfl, trivial, rfl, hshaped, hid, hknown, ?_⟩
        rw [List.append_nil]
        exact (hagrees id hknown).mp hmem
      · rw [if_pos rfl, if_neg hmem]
        refine ⟨hblameless fun hrepeats => hmem ((hagrees id hknown).mpr hrepeats.2.2), ?_⟩
        intro other hother
        rw [isReferredIn_append_singleton, ← hagrees other hother, hid]
        simp [Item.idsOf, Item.ids, eq_comm]

theorem tells_malformed {fault : SpecFault} (hnotShaped : ¬value.IsShaped)
    (below : List PlacedNode) :
    Tells known before (⟨steps, value⟩ :: below)
      (seenAfter seen (read known trail ⟨"", steps⟩ seen (.malformed fault))) := by
  refine ⟨[], ⟨steps, value⟩, below, rfl, trivial, ?_⟩
  exact ⟨rfl, hnotShaped⟩

/-- Reading the value tells of it and of the nodes below it. -/
def ReadsNode (known : DocumentId → Bool) (value : Json) : Prop :=
  ∀ (trail : List String) (steps : List SpecStep) (seen : List DocumentId)
    (before : List PlacedNode), Agrees known seen before →
      Tells known before (⟨steps, value⟩ :: value.nodesBelow steps)
        (seenAfter seen (read known trail ⟨"", steps⟩ seen (ofJson value)))

/-- Reading the values one after the other tells of all nodes in them. -/
def ReadsNodes (known : DocumentId → Bool) (values : List Json) : Prop :=
  ∀ (trail : List String) (place : Nat → List SpecStep) (index : Nat) (seen : List DocumentId)
    (before : List PlacedNode), Agrees known seen before →
      Tells known before (Json.nodesOf place index values)
        (seenAfter seen (readAll known trail (fun i => ⟨"", place i⟩) index seen
          (ofJsonList values)))

theorem readsNodes_nil : ReadsNodes known [] := by
  intro trail place index seen before hagrees
  refine ⟨trivial, ?_⟩
  simpa [Json.nodesOf, Item.idsOf] using hagrees

theorem ReadsNode.cons {values : List Json} (hvalue : ReadsNode known value)
    (hvalues : ReadsNodes known values) : ReadsNodes known (value :: values) := by
  intro trail place index seen before hagrees
  have hfirst := hvalue trail (place index) seen before hagrees
  rw [Json.nodesOf, ← List.cons_append, ofJsonList]
  cases hread : read known trail ⟨"", place index⟩ seen (ofJson value) with
  | error cause =>
      rw [hread] at hfirst
      rw [readAll, hread]
      exact hfirst.append_error _
  | ok first =>
      rw [hread] at hfirst
      obtain ⟨hblameless, hseen⟩ := hfirst
      rw [seenAfter_cons hread]
      exact Tells.prepend hblameless (hvalues trail place (index + 1) _ _ hseen)

theorem not_isShaped_of_malformed {fields : List (String × Json)} {fault : SpecFault}
    (hmalformed : ofJson (.obj fields) = .malformed fault) : ¬(Json.obj fields).IsShaped := by
  rintro (⟨id, label, hentry⟩ | ⟨label, collapsed, values, hcategory, hitems⟩)
  · rw [ofJson_of_isDocEntry hentry] at hmalformed
    cases hmalformed
  · rw [ofJson_of_isCategory hcategory hitems] at hmalformed
    cases hmalformed

theorem readsNode_text (known : DocumentId → Bool) (id : DocumentId) :
    ReadsNode known (.str id) := by
  intro trail steps seen before hagrees
  rw [Json.nodesBelow]
  by_cases hshaped : (Json.str id).IsShaped
  · rw [ofJson_str hshaped]
    exact tells_reference hshaped rfl hagrees
  · have hblank : Text.isBlank id = true := by simpa [Json.IsShaped] using hshaped
    rw [ofJson, ofReference, if_pos hblank]
    exact tells_malformed hshaped []

/-- A category is examined before its items, and refers to nothing itself. -/
theorem readsNode_object {fields : List (String × Json)}
    (hitems : ∀ values, fields.lookup "items" = some (.arr values) → ReadsNodes known values) :
    ReadsNode known (.obj fields) := by
  intro trail steps seen before hagrees
  cases hobject : ofJson (.obj fields) with
  | reference id label =>
      have hentry : IsDocEntry fields id label := by
        rw [ofJson] at hobject
        exact ofObject_eq_reference_iff.mp hobject
      rw [Json.nodesBelow_of_isDocEntry hentry]
      exact tells_reference (.inl ⟨id, label, hentry⟩) (Json.referredId?_of_isDocEntry hentry)
        hagrees
  | group label collapsed nodes =>
      rw [ofJson] at hobject
      obtain ⟨hcategory, hchildren⟩ := ofObject_eq_group_iff.mp hobject
      obtain ⟨values, hlookup, rfl⟩ := childrenOf_eq_entries_iff.mp hchildren
      have hnone := Json.referredId?_of_isCategory hcategory
      have hblameless : Blameless known before [⟨steps, .obj fields⟩] := by
        refine ⟨?_, trivial⟩
        rintro (hnotShaped | ⟨id, hid, -⟩)
        · exact hnotShaped (.inr ⟨label, collapsed, values, hcategory, hlookup⟩)
        · rw [hnone] at hid
          cases hid
      rw [seenAfter_group, Json.nodesBelow_of_isCategory hcategory hlookup]
      exact Tells.prepend hblameless
        (hitems values hlookup (trail ++ [label]) _ 0 seen _ (hagrees.of_referredId?_eq_none hnone))
  | malformed fault => exact tells_malformed (not_isShaped_of_malformed hobject) _

theorem readsNode_of_other {value : Json} (hnotText : ∀ id, value ≠ .str id)
    (hnotObject : ∀ fields, value ≠ .obj fields) : ReadsNode known value := by
  intro trail steps seen before _
  cases value with
  | str id => exact absurd rfl (hnotText id)
  | obj fields => exact absurd rfl (hnotObject fields)
  | null | bool _ | num _ | arr _ => exact tells_malformed id _

theorem readsNodes (known : DocumentId → Bool) (values : List Json) : ReadsNodes known values := by
  induction values using Json.nodeInduction with
  | nil => exact readsNodes_nil
  | text id rest ih => exact (readsNode_text known id).cons ih
  | object fields rest ihItems ihRest => exact (readsNode_object ihItems).cons ihRest
  | other value rest hnotText hnotObject ih =>
      exact (readsNode_of_other hnotText hnotObject).cons ih

end Outline

namespace Spec

open Outline

/-- Reading a whole spec tells of all nodes in it. -/
theorem tells_parse (spec : Json) (registry : Registry) :
    Tells registry.contains [] (placedNodes spec) (seenAfter [] (parse spec registry)) := by
  have hagrees : Agrees registry.contains [] [] := by
    intro id _
    simp [IsReferredIn]
  cases spec with
  | arr values => exact readsNodes _ values [] (fun i => [.entry i]) 0 [] [] hagrees
  | str id => exact readsNode_text _ id [] [] [] [] hagrees
  | obj fields => exact readsNode_object (fun values _ => readsNodes _ values) [] [] [] [] hagrees
  | null | bool _ | num _ => exact ⟨[], _, [], rfl, trivial, rfl, id⟩

/-- **An error points at the first node that offends.** The place in an error is shown by a text
that no other place has. It leads to a node of the spec that offends after the nodes before it,
while none of those does. The error is about the node itself if the node is malformed, and about a
repeated document if the node is a reference to one that has been referred to before. -/
theorem error_points_at_first {spec : Json} {registry : Registry} {cause : SpecError}
    (hparse : parse spec registry = .error cause) :
    ∃ before node after, placedNodes spec = before ++ node :: after ∧
      Blameless registry.contains [] before ∧
      Offends registry.contains before node.value ∧
      (∀ steps, cause.location.text = (⟨"", steps⟩ : SpecLocation).text ↔ steps = node.steps) ∧
      Json.nodeAt? node.steps spec = some node.value ∧
      ((∃ fault, cause = .invalid ⟨"", node.steps⟩ fault ∧ ¬node.value.IsShaped) ∨
        ∃ id, cause = .duplicateReference id ⟨"", node.steps⟩ ∧ node.value.IsShaped ∧
          Repeats registry.contains before node.value id) := by
  have htells := tells_parse spec registry
  rw [hparse] at htells
  obtain ⟨before, node, after, hnodes, hblameless, hblames⟩ := htells
  have hnode : node ∈ placedNodes spec := by simp [hnodes]
  refine ⟨before, node, after, hnodes, hblameless, hblames.offends, fun steps => ?_,
    nodeAt?_of_mem_placedNodes hnode, hblames.invalid_or_duplicate⟩
  rw [hblames.location_eq]
  constructor
  · intro htext
    exact (SpecLocation.steps_eq_of_text_eq htext).symm
  · rintro rfl
    rfl

/-- A spec that refers twice to an unknown document and twice to a known one, the second time below
a category, before a value that is no node. -/
def repeatingSpec : Json :=
  .arr
    [.str "ghost", .str "intro",
      .obj [("label", .str "Guides"),
        ("items", .arr [.str "ghost", .obj [("type", .str "doc"), ("id", .str "intro")]])],
      .null]

/-- A spec in which a category with a blank label has a value below it that is no node either. -/
def blankSpec : Json :=
  .arr [.obj [("items", .arr [.null]), ("label", .str " ")], .str "intro", .str "intro"]

theorem error_points_at_first_sample :
    parse repeatingSpec sampleRegistry =
        .error (.duplicateReference "intro" ⟨"", [.entry 2, .item 1]⟩) ∧
      (∃ before node after, placedNodes repeatingSpec = before ++ node :: after ∧
        Blameless sampleRegistry.contains [] before ∧ node.steps = [.entry 2, .item 1] ∧
          Repeats sampleRegistry.contains before node.value "intro") ∧
      parse blankSpec sampleRegistry = .error (.invalid ⟨"", [.entry 0]⟩ .blankLabel) ∧
      ∃ before node after, placedNodes blankSpec = before ++ node :: after ∧
        Blameless sampleRegistry.contains [] before ∧ node.steps = [.entry 0] ∧
          ¬node.value.IsShaped := by
  have hrepeated : parse repeatingSpec sampleRegistry =
      .error (.duplicateReference "intro" ⟨"", [.entry 2, .item 1]⟩) := rfl
  have hblank : parse blankSpec sampleRegistry =
      .error (.invalid ⟨"", [.entry 0]⟩ .blankLabel) := rfl
  refine ⟨hrepeated, ?_, hblank, ?_⟩
  · obtain ⟨before, node, after, hnodes, hblameless, -, htext, -, hkind⟩ :=
      error_points_at_first hrepeated
    refine ⟨before, node, after, hnodes, hblameless, ((htext _).mp rfl).symm, ?_⟩
    rcases hkind with ⟨fault, hcause, -⟩ | ⟨id, hcause, -, hrepeats⟩
    · cases hcause
    · obtain ⟨rfl, -⟩ := SpecError.duplicateReference.inj hcause
      exact hrepeats
  · obtain ⟨before, node, after, hnodes, hblameless, -, htext, -, hkind⟩ :=
      error_points_at_first hblank
    refine ⟨before, node, after, hnodes, hblameless, ((htext _).mp rfl).symm, ?_⟩
    rcases hkind with ⟨fault, -, hnotShaped⟩ | ⟨id, hcause, -⟩
    · exact hnotShaped
    · cases hcause

end Spec

end Signpost
