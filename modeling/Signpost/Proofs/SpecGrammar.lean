import Signpost.Proofs.SpecReading

/-!
# Which specs can be read

The specs that can be read are those of a grammar in which no known document is referred to twice.
A spec outside the grammar has a first malformed node. It does not depend on what is known, so that
two readings that do not stop at a repeated document end alike.
-/

namespace Signpost

namespace Outline

/-- A value that is one node of a spec. -/
inductive IsNode : Json → Prop where
  | text {id : DocumentId} : Text.isBlank id = false → IsNode (.str id)
  | docEntry {fields : List (String × Json)} {id : DocumentId} {label : Option String} :
      IsDocEntry fields id label → IsNode (.obj fields)
  | category {fields : List (String × Json)} {label : String} {collapsed : Bool}
      {values : List Json} :
      IsCategory fields label collapsed → fields.lookup "items" = some (.arr values) →
        (∀ value ∈ values, IsNode value) → IsNode (.obj fields)

theorem allSound_ofJsonList_iff_forall {values : List Json} :
    AllSound (ofJsonList values) ↔ ∀ value ∈ values, (ofJson value).Sound := by
  induction values with
  | nil => simp [ofJsonList, AllSound]
  | cons value values ih => simp [ofJsonList, AllSound, ih]

theorem sound_of_isNode {value : Json} (hnode : IsNode value) : (ofJson value).Sound := by
  induction hnode with
  | text hid => exact sound_ofJson_str_iff.mpr hid
  | docEntry hentry =>
      rw [ofJson_of_isDocEntry hentry]
      exact trivial
  | category hcategory hitems _ ih =>
      rw [ofJson_of_isCategory hcategory hitems]
      exact allSound_ofJsonList_iff_forall.mpr ih

theorem isNode_of_wellFormed {values : List Json} (hvalues : WellFormed values) :
    ∀ value ∈ values, IsNode value := by
  induction hvalues with
  | nil => simp
  | text hid _ ih => exact List.forall_mem_cons.mpr ⟨.text hid, ih⟩
  | docEntry hentry _ ih => exact List.forall_mem_cons.mpr ⟨.docEntry hentry, ih⟩
  | category hcategory hitems _ _ ihItems ihRest =>
      exact List.forall_mem_cons.mpr ⟨.category hcategory hitems ihItems, ihRest⟩

/-- No node is malformed exactly when every value is a node by the grammar. -/
theorem allSound_ofJsonList_iff_isNode {values : List Json} :
    AllSound (ofJsonList values) ↔ ∀ value ∈ values, IsNode value := by
  constructor
  · intro hsound
    exact isNode_of_wellFormed (allSound_ofJsonList_iff.mp hsound)
  · intro hnodes
    exact allSound_ofJsonList_iff_forall.mpr fun value hvalue =>
      sound_of_isNode (hnodes value hvalue)

theorem not_isNode_arr {values : List Json} : ¬IsNode (.arr values) := by
  intro hnode
  exact not_sound_of_other (by simp) (by simp) (sound_of_isNode hnode)

/-! ### The first malformed node

A node is examined before the nodes below it, and these before the nodes that follow. -/

mutual

/-- The place of the first malformed node at or below a node, and what is wrong there. -/
def firstFault? (location : SpecLocation) : Outline → Option (SpecLocation × SpecFault)
  | .reference _ _ => none
  | .group _ _ entries => firstFaultIn? (fun i => location.below (.item i)) 0 entries
  | .malformed fault => some (location, fault)

def firstFaultIn? (place : Nat → SpecLocation) (index : Nat) :
    List Outline → Option (SpecLocation × SpecFault)
  | [] => none
  | node :: nodes =>
    (firstFault? (place index) node).or (firstFaultIn? place (index + 1) nodes)

end

/-- What a reading says of malformed nodes when the first one is given: success says that there is
none and a fault is the first one. A repeated document says nothing of malformed nodes. -/
def TellsFirst (first? : Option (SpecLocation × SpecFault)) :
    Except SpecError ParsedSpec → Prop
  | .ok _ => first? = none
  | .error (.invalid location fault) => first? = some (location, fault)
  | .error (.duplicateReference _ _) => True

section Reading

variable {known : DocumentId → Bool}

/-- Every reading of the node tells its first malformed node. -/
def Diagnosed (known : DocumentId → Bool) (node : Outline) : Prop :=
  ∀ (trail : List String) (location : SpecLocation) (seen : List DocumentId),
    TellsFirst (node.firstFault? location) (read known trail location seen node)

theorem tellsFirst_readAll {nodes : List Outline} (hnodes : ∀ node ∈ nodes, Diagnosed known node)
    (trail : List String) (place : Nat → SpecLocation) (index : Nat) (seen : List DocumentId) :
    TellsFirst (firstFaultIn? place index nodes) (readAll known trail place index seen nodes) := by
  induction nodes generalizing index seen with
  | nil => exact rfl
  | cons node nodes ih =>
      have hnode := hnodes node List.mem_cons_self trail (place index) seen
      have hrest : ∀ other ∈ nodes, Diagnosed known other :=
        fun other hother => hnodes other (List.mem_cons_of_mem node hother)
      rw [firstFaultIn?, readAll]
      cases hread : read known trail (place index) seen node with
      | error cause =>
          rw [hread] at hnode
          cases cause with
          | invalid location fault =>
              have hfirst : node.firstFault? (place index) = some (location, fault) := hnode
              rw [hfirst]
              exact rfl
          | duplicateReference id location => exact trivial
      | ok first =>
          rw [hread] at hnode
          have hnone : node.firstFault? (place index) = none := hnode
          have htail := ih hrest (index + 1) (seen ++ Item.idsOf first.items)
          rw [hnone, Option.none_or]
          dsimp only
          cases hreadAll : readAll known trail place (index + 1)
              (seen ++ Item.idsOf first.items) nodes with
          | error cause => rwa [hreadAll] at htail
          | ok rest => rwa [hreadAll] at htail

theorem diagnosed (known : DocumentId → Bool) (node : Outline) : Diagnosed known node := by
  induction node using nodeInduction with
  | reference id label =>
      intro trail location seen
      unfold read
      split
      · split
        · exact trivial
        · exact rfl
      · exact rfl
  | group label collapsed entries ih =>
      intro trail location seen
      have hentries := tellsFirst_readAll ih (trail ++ [label])
        (fun i => location.below (.item i)) 0 seen
      rw [firstFault?, read]
      cases hreadAll : readAll known (trail ++ [label]) (fun i => location.below (.item i)) 0 seen
          entries with
      | error cause => rwa [hreadAll] at hentries
      | ok inner => rwa [hreadAll] at hentries
  | malformed fault =>
      intro trail location seen
      exact rfl

end Reading

end Outline

namespace Spec

/-- A value that is a whole spec by the grammar: a sequence of nodes, or a single node. -/
def IsSpec (spec : Json) : Prop :=
  (∃ values, spec = .arr values ∧ ∀ value ∈ values, Outline.IsNode value) ∨ Outline.IsNode spec

theorem sound_iff_isSpec {spec : Json} : Sound spec ↔ IsSpec spec := by
  rw [Sound, Outline.allSound_ofJsonList_iff_isNode]
  cases spec with
  | arr values => simp [nodes, IsSpec, Outline.not_isNode_arr]
  | null | bool _ | num _ | str _ | obj _ => simp [nodes, IsSpec]

/-- The place of the first malformed node of a whole spec, and what is wrong there. -/
def firstFault? (root : String) (spec : Json) : Option (SpecLocation × SpecFault) :=
  let top : SpecLocation := ⟨root, []⟩
  match spec with
  | .arr values =>
    Outline.firstFaultIn? (fun i => top.below (.entry i)) 0 (Outline.ofJsonList values)
  | .str _ | .obj _ => Outline.firstFault? top (Outline.ofJson spec)
  | .null | .bool _ | .num _ => some (top, .notASpec spec.kind)

/-- A whole spec is read up to its first malformed node, whatever is known. -/
theorem tellsFirst_parseAt (known : DocumentId → Bool) (root : String) (trail : List String)
    (spec : Json) : Outline.TellsFirst (firstFault? root spec) (parseAt known root trail spec) := by
  cases spec with
  | arr values =>
      exact Outline.tellsFirst_readAll (fun node _ => Outline.diagnosed known node) trail _ 0 []
  | str id => exact Outline.diagnosed known _ trail _ []
  | obj fields => exact Outline.diagnosed known _ trail _ []
  | null => exact rfl
  | bool value => exact rfl
  | num value => exact rfl

/-- Two readings that tell the same first malformed node and do not stop at a repeated document both
succeed or both fail alike. -/
theorem both_ok_or_same_error {first? : Option (SpecLocation × SpecFault)}
    {run run' : Except SpecError ParsedSpec} (htells : Outline.TellsFirst first? run)
    (htells' : Outline.TellsFirst first? run')
    (hrun : ∀ id location, run ≠ .error (.duplicateReference id location))
    (hrun' : ∀ id location, run' ≠ .error (.duplicateReference id location)) :
    (∃ parsed parsed', run = .ok parsed ∧ run' = .ok parsed') ∨
      ∃ cause, run = .error cause ∧ run' = .error cause := by
  match run, run' with
  | .error (.duplicateReference id location), _ => exact absurd rfl (hrun id location)
  | _, .error (.duplicateReference id location) => exact absurd rfl (hrun' id location)
  | .ok parsed, .ok parsed' => exact .inl ⟨parsed, parsed', rfl, rfl⟩
  | .ok _, .error (.invalid _ _) =>
      have hsome := htells'
      rw [show first? = none from htells] at hsome
      exact absurd hsome (by simp [Outline.TellsFirst])
  | .error (.invalid _ _), .ok _ =>
      have hsome := htells
      rw [show first? = none from htells'] at hsome
      exact absurd hsome (by simp [Outline.TellsFirst])
  | .error (.invalid location fault), .error (.invalid location' fault') =>
      have heq : some (location, fault) = some (location', fault') :=
        Eq.trans (Eq.symm htells) htells'
      simp only [Option.some.injEq, Prod.mk.injEq] at heq
      obtain ⟨rfl, rfl⟩ := heq
      exact .inr ⟨_, rfl, rfl⟩

/-- No known document is referred to twice. -/
theorem nodup_filter_idsOf_iff {known : DocumentId → Bool} {spec : Json} :
    ((Item.idsOf (declared spec)).filter known).Nodup ↔
      ∀ id, known id = true → ((references spec).map (·.id)).count id ≤ 1 := by
  rw [references, ← Item.idsOf_eq_map_mentionsOf, List.nodup_iff_count_le_one]
  constructor
  · intro hcount id hid
    rw [← List.count_filter hid]
    exact hcount id
  · intro hcount id
    cases hid : known id with
    | true =>
        rw [List.count_filter hid]
        exact hcount id hid
    | false =>
        have hnotMem : id ∉ (Item.idsOf (declared spec)).filter known := by
          simp [List.mem_filter, hid]
        rw [List.count_eq_zero_of_not_mem hnotMem]
        exact Nat.zero_le 1

/-- **The grammar of specs.** A value can be read exactly when it is a spec by the grammar and no
known document is referred to more than once in it. Readings of one value against two registries
both succeed or fail with the same error, unless one of them stops at a repeated document. -/
theorem parse_succeeds_iff (spec : Json) (registry : Registry) :
    ((∃ parsed, parse spec registry = .ok parsed) ↔
      IsSpec spec ∧
        ∀ id, registry.contains id = true → ((references spec).map (·.id)).count id ≤ 1) ∧
    ∀ registry' : Registry,
      (∀ id location, parse spec registry ≠ .error (.duplicateReference id location)) →
      (∀ id location, parse spec registry' ≠ .error (.duplicateReference id location)) →
        (∃ parsed parsed', parse spec registry = .ok parsed ∧ parse spec registry' = .ok parsed') ∨
          ∃ cause, parse spec registry = .error cause ∧ parse spec registry' = .error cause := by
  constructor
  · rw [← sound_iff_isSpec, ← nodup_filter_idsOf_iff]
    constructor
    · rintro ⟨parsed, hparse⟩
      obtain ⟨hsound, hnodup, -⟩ := parse_eq_ok_iff.mp hparse
      exact ⟨hsound, hnodup⟩
    · rintro ⟨hsound, hnodup⟩
      exact ⟨_, parse_eq_ok_iff.mpr ⟨hsound, hnodup, rfl⟩⟩
  · intro registry' hrun hrun'
    exact both_ok_or_same_error (tellsFirst_parseAt registry.contains "" [] spec)
      (tellsFirst_parseAt registry'.contains "" [] spec) hrun hrun'

/-- A spec with a malformed node below a category, after a document that not everyone knows. -/
def faultySpec : Json :=
  .arr
    [.str "intro",
      .obj [("label", .str "Guides"), ("items", .arr [.str "faq", .obj [("id", .str "intro")]])],
      .str "intro"]

theorem parse_succeeds_iff_sample :
    (IsSpec sampleSpec ∧
      ∀ id, sampleRegistry.contains id = true →
        ((references sampleSpec).map (·.id)).count id ≤ 1) ∧
    ∃ cause, parse faultySpec sampleRegistry = .error cause ∧
      parse faultySpec Registry.empty = .error cause := by
  have hsample : parse sampleSpec sampleRegistry = .ok sampleParsed := rfl
  have hfault : parse faultySpec sampleRegistry =
      .error (.invalid ⟨"", [.entry 1, .item 1]⟩ .shapeless) := rfl
  have hfault' : parse faultySpec Registry.empty =
      .error (.invalid ⟨"", [.entry 1, .item 1]⟩ .shapeless) := rfl
  refine ⟨(parse_succeeds_iff _ _).1.mp ⟨_, hsample⟩, ?_⟩
  rcases (parse_succeeds_iff faultySpec sampleRegistry).2 Registry.empty (by simp [hfault])
    (by simp [hfault']) with ⟨parsed, _, hparsed, _⟩ | hcause
  · rw [hfault] at hparsed
    exact absurd hparsed (by simp)
  · exact hcause

end Spec

end Signpost
