import Signpost.Proofs.IndexLookup
import Signpost.Proofs.ItemTree
import Signpost.Proofs.ReadBack
import Signpost.Proofs.SessionRuns

/-!
# Reading back a navigation

The value that is written for a navigation has no numbers and no repeated keys, whatever options are
set and whatever the documents are called. So its text is read back as the same value, in both forms
and however deep the tree is, and the documents in the text are those of the navigation.
-/

namespace Signpost

namespace Json

theorem arePlain_iff {items : List Json} : ArePlain items ↔ ∀ item ∈ items, IsPlain item := by
  induction items with
  | nil => simp [ArePlain]
  | cons item items ih => simp [ArePlain, ih]

theorem havePlain_iff {fields : List (String × Json)} :
    HavePlain fields ↔ ∀ field ∈ fields, IsPlain field.2 := by
  induction fields with
  | nil => simp [HavePlain]
  | cons field fields ih => simp [HavePlain, ih]

theorem isPlain_obj_iff {fields : List (String × Json)} :
    IsPlain (.obj fields) ↔ (fields.map (·.1)).Nodup ∧ ∀ field ∈ fields, IsPlain field.2 := by
  rw [IsPlain, havePlain_iff]

theorem isPlain_arr_str (texts : List String) : IsPlain (.arr (texts.map .str)) := by
  rw [IsPlain, arePlain_iff]
  intro item hitem
  obtain ⟨text, -, rfl⟩ := List.mem_map.mp hitem
  trivial

/-- The fields are texts under some of the keys, in their order. -/
structure AreTexts (fields : List (String × Json)) (keys : List String) : Prop where
  keys_sublist : (fields.map (·.1)).Sublist keys
  eq_str : ∀ field ∈ fields, ∃ text, field.2 = .str text

theorem areTexts_singleton (key text : String) : AreTexts [(key, .str text)] [key] where
  keys_sublist := List.Sublist.refl _
  eq_str := fun _ hfield => ⟨text, by rw [List.mem_singleton.mp hfield]⟩

theorem areTexts_optionalField (key : String) (value : Option String) :
    AreTexts (optionalField key value) [key] := by
  cases value with
  | none => exact ⟨List.nil_sublist _, fun _ hfield => absurd hfield List.not_mem_nil⟩
  | some text => exact areTexts_singleton key text

theorem AreTexts.append {front back : List (String × Json)} {keys more : List String}
    (hfront : AreTexts front keys) (hback : AreTexts back more) :
    AreTexts (front ++ back) (keys ++ more) where
  keys_sublist := by
    rw [List.map_append]
    exact hfront.keys_sublist.append hback.keys_sublist
  eq_str := fun field hfield =>
    (List.mem_append.mp hfield).elim (hfront.eq_str field) (hback.eq_str field)

theorem AreTexts.isPlain {fields : List (String × Json)} {keys : List String}
    (hfields : AreTexts fields keys) (hnodup : keys.Nodup) : IsPlain (.obj fields) := by
  rw [isPlain_obj_iff]
  refine ⟨hnodup.sublist hfields.keys_sublist, fun field hfield => ?_⟩
  obtain ⟨text, htext⟩ := hfields.eq_str field hfield
  rw [htext]
  trivial

end Json

open Json

theorem Item.isPlain_toJson_doc (id : DocumentId) (label : Option String) :
    IsPlain (Item.doc id label).toJson :=
  (((areTexts_singleton "type" "doc").append (areTexts_singleton "id" id)).append
    (areTexts_optionalField "label" label)).isPlain (by decide)

theorem Item.arePlain_listToJson (items : List Item) : ArePlain (Item.listToJson items) := by
  induction items using Item.forestInduction with
  | nil => trivial
  | doc id label rest ih => exact ⟨Item.isPlain_toJson_doc id label, ih⟩
  | category label collapsed items rest ihItems ihRest =>
      refine ⟨?_, ihRest⟩
      rw [Item.toJson, isPlain_obj_iff]
      refine ⟨by simp, ?_⟩
      simp [IsPlain, ihItems]

theorem Neighbours.isPlain_toJson (n : Neighbours) : IsPlain n.toJson :=
  ((areTexts_optionalField "previous" n.previous).append
    (areTexts_optionalField "next" n.next)).isPlain (by decide)

theorem Navigation.isPlain_toJson (nav : Navigation) : IsPlain nav.toJson := by
  have hlinks : IsPlain
      (.obj (nav.links.entries.map fun entry => (entry.1, entry.2.toJson))) := by
    rw [isPlain_obj_iff]
    constructor
    · rw [List.map_map]
      exact nav.links.nodup_keys
    · intro field hfield
      obtain ⟨entry, -, rfl⟩ := List.mem_map.mp hfield
      exact entry.2.isPlain_toJson
  rw [Navigation.toJson, isPlain_obj_iff]
  refine ⟨by simp, ?_⟩
  simp only [List.forall_mem_cons]
  exact ⟨Item.arePlain_listToJson nav.items, isPlain_arr_str nav.order, hlinks, by simp⟩

theorem EffectiveSite.isPlain_toJson (site : EffectiveSite) : IsPlain site.toJson := by
  have htitle := (areTexts_singleton "title" site.title).append
    (areTexts_optionalField "tagline" site.tagline)
  have hplaces := (areTexts_singleton "url" site.url).append
    (areTexts_singleton "baseUrl" site.baseUrl)
  have hpolicies := (areTexts_singleton "brokenLinkPolicy" site.brokenLinkPolicy.name).append
    (areTexts_singleton "brokenMarkdownLinkPolicy" site.brokenMarkdownLinkPolicy.name)
  exact (((((htitle.append hplaces).append
    (areTexts_optionalField "organizationName" site.organizationName)).append
    (areTexts_optionalField "projectName" site.projectName)).append
    (areTexts_optionalField "editUrl" site.editUrl)).append hpolicies).isPlain (by decide)

namespace Commands

/-- The value that is written for a navigation. -/
def navJson (p : Project) (name : String) (nav : Navigation) : Json :=
  .obj [("site", p.site.toJson), ("sidebar", .str name), ("navigation", nav.toJson)]

theorem isPlain_navJson (p : Project) (name : String) (nav : Navigation) :
    IsPlain (navJson p name nav) := by
  rw [navJson, isPlain_obj_iff]
  refine ⟨by simp, ?_⟩
  simp only [List.forall_mem_cons]
  exact ⟨p.site.isPlain_toJson, trivial, nav.isPlain_toJson, by simp⟩

/-- What is written for a value without numbers and repeated keys is read back as the value. -/
theorem parseWithin?_written (o : Options) {value : Json} (hplain : IsPlain value) {depth : Nat}
    (hdepth : (written o value).length ≤ depth) :
    parseWithin? depth (written o value) = some value := by
  have hspells : Spells value (textOf o value).toList := by
    rw [textOf]
    split
    · exact spells_compact value hplain
    · exact spells_pretty value hplain 0
  exact parseWithin?_of_spells hspells areBlank_newline String.toList_append hdepth

/-- The documents of a navigation as its printed text lists them. -/
def printedOrder? (text : String) : Option (List String) :=
  ((parseWithin? text.length text).bind fun printed =>
    (printed.get? "navigation").bind (·.get? "order")).bind fun
      | .arr ids => ids.mapM asString?
      | _ => none

theorem printedOrder?_written (o : Options) (p : Project) (name : String) (nav : Navigation) :
    printedOrder? (written o (navJson p name nav)) = some nav.order := by
  have hids (ids : List String) : (ids.map Json.str).mapM asString? = some ids := by
    induction ids with
    | nil => rfl
    | cons id ids ih =>
        rw [List.map_cons, List.mapM_cons, ih]
        rfl
  rw [printedOrder?, parseWithin?_written o (isPlain_navJson p name nav) (Nat.le_refl _)]
  exact hids nav.order

end Commands

end Signpost
