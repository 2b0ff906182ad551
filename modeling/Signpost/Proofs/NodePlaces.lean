import Signpost.Proofs.CutAndJoin
import Signpost.Proofs.NamedSidebars

/-!
# The nodes of a spec and their places

The nodes of a spec stand in document order: a node comes before the nodes below it, and these come
before the nodes that follow. The place of a node is the steps that lead down to it from the whole
spec. No other steps are shown by the same text, so that a place can be read back from its text.
-/

namespace Signpost

/-- A value in a spec, with the steps that lead to it. -/
structure PlacedNode where
  steps : List SpecStep
  value : Json

namespace Json

/-- What stands one step below a value. -/
def below? (value : Json) : SpecStep → Option Json
  | .entry i =>
    match value with
    | .arr values => values[i]?
    | _ => none
  | .item i =>
    match value.get? "items" with
    | some (.arr values) => values[i]?
    | _ => none

/-- What steps lead to from a value. -/
def nodeAt? (steps : List SpecStep) (value : Json) : Option Json :=
  steps.foldlM below? value

mutual

/-- The nodes below a value, in document order. A document entry has none, whatever its fields. -/
def nodesBelow (steps : List SpecStep) : Json → List PlacedNode
  | .obj fields =>
    if textUnder? "type" fields = some "doc" then [] else nodesUnder steps fields
  | .null | .bool _ | .num _ | .str _ | .arr _ => []

/-- The nodes at and below values that stand side by side, the first of them at an index. -/
def nodesOf (place : Nat → List SpecStep) (index : Nat) : List Json → List PlacedNode
  | [] => []
  | value :: values =>
    ⟨place index, value⟩ :: (value.nodesBelow (place index) ++ nodesOf place (index + 1) values)

def nodesUnder (steps : List SpecStep) : List (String × Json) → List PlacedNode
  | [] => []
  | (key, value) :: fields =>
    if key = "items" then value.nodesIn steps else nodesUnder steps fields

def nodesIn (steps : List SpecStep) : Json → List PlacedNode
  | .arr values => nodesOf (fun i => steps ++ [.item i]) 0 values
  | .null | .bool _ | .num _ | .str _ | .obj _ => []

end

theorem nodeAt?_append (front back : List SpecStep) (value : Json) :
    nodeAt? (front ++ back) value = (nodeAt? front value).bind (nodeAt? back) :=
  List.foldlM_append

section Nodes

variable {fields : List (String × Json)} {values : List Json} {steps : List SpecStep}
  {node : PlacedNode}

theorem nodesUnder_eq (steps : List SpecStep) (fields : List (String × Json)) :
    nodesUnder steps fields = ((fields.lookup "items").map (nodesIn steps)).getD [] :=
  eq_of_items (fun _ _ _ => by rw [nodesUnder]) fields

/-- Only a sequence of items has nodes in it. -/
theorem exists_items_of_mem_nodesBelow (hnode : node ∈ nodesBelow steps (.obj fields)) :
    ∃ values, fields.lookup "items" = some (.arr values) ∧
      node ∈ nodesOf (fun i => steps ++ [.item i]) 0 values := by
  rw [nodesBelow, nodesUnder_eq] at hnode
  split at hnode
  · simp at hnode
  · cases hitems : fields.lookup "items" with
    | none => simp [hitems] at hnode
    | some value =>
        rw [hitems, Option.map_some, Option.getD_some] at hnode
        cases value with
        | arr values => exact ⟨values, rfl, hnode⟩
        | null | bool _ | num _ | str _ | obj _ => simp [nodesIn] at hnode

theorem nodesBelow_of_isDocEntry {id : DocumentId} {label : Option String}
    (hentry : Outline.IsDocEntry fields id label) : nodesBelow steps (.obj fields) = [] := by
  rw [nodesBelow, if_pos (textUnder?_of_lookup hentry.type_eq)]

theorem nodesBelow_of_isCategory {label : String} {collapsed : Bool}
    (hcategory : Outline.IsCategory fields label collapsed)
    (hitems : fields.lookup "items" = some (.arr values)) :
    nodesBelow steps (.obj fields) = nodesOf (fun i => steps ++ [.item i]) 0 values := by
  rw [nodesBelow, if_neg (textUnder?_type_ne_doc hcategory), nodesUnder_eq, hitems, Option.map_some,
    Option.getD_some, nodesIn]

theorem nodesBelow_of_other {value : Json} (hnotObject : ∀ fields, value ≠ .obj fields) :
    nodesBelow steps value = [] := by
  cases value with
  | obj fields => exact absurd rfl (hnotObject fields)
  | null | bool _ | num _ | str _ | arr _ => rw [nodesBelow]

/-- Steps lead from a root to values that stand side by side, the first of them at an index. -/
def LeadTo (root : Json) (place : Nat → List SpecStep) (index : Nat) (values : List Json) : Prop :=
  ∀ i value, values[i]? = some value → nodeAt? (place (index + i)) root = some value

theorem LeadTo.tail {root value : Json} {place : Nat → List SpecStep} {index : Nat}
    (hlead : LeadTo root place index (value :: values)) : LeadTo root place (index + 1) values := by
  intro i other hget
  rw [Nat.add_assoc, Nat.add_comm 1]
  exact hlead (i + 1) other hget

/-- Where steps lead to an object, longer ones lead to its items. -/
theorem leadTo_items {root : Json} (hobject : nodeAt? steps root = some (.obj fields))
    (hitems : fields.lookup "items" = some (.arr values)) :
    LeadTo root (fun i => steps ++ [.item i]) 0 values := by
  intro i value hget
  rw [nodeAt?_append, hobject]
  simpa [nodeAt?, below?, get?, hitems] using hget

/-- Where steps lead to values that stand side by side, they lead to the nodes below them too. -/
theorem LeadTo.nodeAt?_eq {root : Json} {place : Nat → List SpecStep} {index : Nat}
    (hlead : LeadTo root place index values) (hnode : node ∈ nodesOf place index values) :
    nodeAt? node.steps root = some node.value := by
  induction values using nodeInduction generalizing place index with
  | nil => simp [nodesOf] at hnode
  | text id rest ih =>
      rw [nodesOf, nodesBelow, List.nil_append, List.mem_cons] at hnode
      rcases hnode with rfl | hnode
      · exact hlead 0 _ rfl
      · exact ih hlead.tail hnode
  | object fields rest ihItems ihRest =>
      rw [nodesOf, List.mem_cons, List.mem_append] at hnode
      rcases hnode with rfl | hnode | hnode
      · exact hlead 0 _ rfl
      · obtain ⟨values, hitems, hnode⟩ := exists_items_of_mem_nodesBelow hnode
        exact ihItems values hitems (leadTo_items (hlead 0 _ rfl) hitems) hnode
      · exact ihRest hlead.tail hnode
  | other value rest hnotText hnotObject ih =>
      rw [nodesOf, nodesBelow_of_other hnotObject, List.nil_append, List.mem_cons] at hnode
      rcases hnode with rfl | hnode
      · exact hlead 0 _ rfl
      · exact ih hlead.tail hnode

end Nodes

end Json

namespace Spec

/-- The nodes of a whole spec, in document order. A sequence is no node itself. -/
def placedNodes : Json → List PlacedNode
  | .arr values => Json.nodesOf (fun i => [.entry i]) 0 values
  | spec => ⟨[], spec⟩ :: spec.nodesBelow []

/-- The steps of a node lead to it from the whole spec. -/
theorem nodeAt?_of_mem_placedNodes {spec : Json} {node : PlacedNode}
    (hnode : node ∈ placedNodes spec) : Json.nodeAt? node.steps spec = some node.value := by
  cases spec with
  | arr values =>
      have hlead : Json.LeadTo (.arr values) (fun i => [.entry i]) 0 values := by
        intro i value hget
        simpa [Json.nodeAt?, Json.below?] using hget
      exact hlead.nodeAt?_eq hnode
  | obj fields =>
      rcases List.mem_cons.mp hnode with rfl | hnode
      · rfl
      · obtain ⟨values, hitems, hnode⟩ := Json.exists_items_of_mem_nodesBelow hnode
        have hroot : Json.nodeAt? [] (.obj fields) = some (.obj fields) := rfl
        exact (Json.leadTo_items hroot hitems).nodeAt?_eq hnode
  | null | bool _ | num _ | str _ =>
      obtain rfl := List.mem_singleton.mp hnode
      rfl

end Spec

/-! ### Reading places back -/

namespace SpecLocation

/-- A number that a bracket closes ends at that bracket, as no bracket is a digit. -/
theorem eq_of_closed_number_eq {i j : Nat} {rest rest' : List Char}
    (heq : (toString i).toList ++ ']' :: rest = (toString j).toList ++ ']' :: rest') :
    i = j ∧ rest = rest' := by
  have hcut (n : Nat) (rest : List Char) :
      ((toString n).toList ++ ']' :: rest).takeWhile (· ≠ ']') = (toString n).toList := by
    have hdigits : ∀ c ∈ (toString n).toList, decide (c ≠ ']') = true := by
      intro c hc
      have hdigit := Text.isDigit_of_mem_toString hc
      simp only [ne_eq, decide_eq_true_eq]
      rintro rfl
      exact absurd hdigit (by decide)
    rw [List.takeWhile_append_of_pos hdigits, List.takeWhile_cons_of_neg (by simp),
      List.append_nil]
  have hnumber : (toString i).toList = (toString j).toList := by
    rw [← hcut i rest, heq, hcut]
  rw [hnumber, List.append_cancel_left_eq] at heq
  exact ⟨Text.toString_nat_inj (String.toList_inj.mp hnumber), (List.cons.inj heq).2⟩

/-- The text below the root tells the steps: the first character tells the kind of the first step,
and the first closing bracket ends its number. -/
theorem steps_eq_of_join_eq {steps steps' : List SpecStep}
    (heq : String.join (steps.map SpecStep.text) = String.join (steps'.map SpecStep.text)) :
    steps = steps' := by
  induction steps generalizing steps' with
  | nil =>
      cases steps' with
      | nil => rfl
      | cons step' steps' =>
          have hchars := congrArg String.toList heq
          cases step' <;> simp [SpecStep.text] at hchars
  | cons step steps ih =>
      have hchars := congrArg String.toList heq
      cases steps' with
      | nil => cases step <;> simp [SpecStep.text] at hchars
      | cons step' steps' =>
          have hrest {i j : Nat}
              (hclosed : (toString i).toList ++ ']' :: (String.join (steps.map SpecStep.text)).toList =
                (toString j).toList ++ ']' :: (String.join (steps'.map SpecStep.text)).toList) :
              i = j ∧ steps = steps' := by
            obtain ⟨hnumber, htail⟩ := eq_of_closed_number_eq hclosed
            exact ⟨hnumber, ih (String.toList_inj.mp htail)⟩
          cases step with
          | entry i =>
              cases step' with
              | entry j =>
                  obtain ⟨rfl, rfl⟩ := hrest (by simpa [SpecStep.text] using hchars)
                  rfl
              | item j => simp [SpecStep.text] at hchars
          | item i =>
              cases step' with
              | entry j => simp [SpecStep.text] at hchars
              | item j =>
                  obtain ⟨rfl, rfl⟩ := hrest (by simpa [SpecStep.text] using hchars)
                  rfl

/-- Places that are shown alike are the same. -/
theorem steps_eq_of_text_eq {steps steps' : List SpecStep}
    (heq : (⟨"", steps⟩ : SpecLocation).text = (⟨"", steps'⟩ : SpecLocation).text) :
    steps = steps' := by
  have hpath : (⟨"", steps⟩ : SpecLocation).path = (⟨"", steps'⟩ : SpecLocation).path := by
    have hne (steps : List SpecStep) : (⟨"", steps⟩ : SpecLocation).path ≠ "(root)" :=
      path_ne_root rfl
    unfold text at heq
    split at heq
    · rename_i hempty
      split at heq
      · rename_i hempty'
        rw [hempty, hempty']
      · exact absurd heq.symm (hne steps')
    · split at heq
      · exact absurd heq (hne steps)
      · exact heq
  simp only [path, String.empty_append] at hpath
  exact steps_eq_of_join_eq hpath

end SpecLocation

end Signpost
