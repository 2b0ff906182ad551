import Signpost.Sidebars
import Signpost.Proofs.SpecPruning

/-!
# What a policy changes

A policy decides whether unresolved references are dropped, reported or an error. It has no part in
the navigation: that is the tree of the spec without the leaves of unknown documents. A spec that
cannot be read leaves no report behind.
-/

namespace Signpost

namespace Policy

variable (unresolved reports : List Unresolved)

@[simp]
theorem judge_ignore : ignore.judge unresolved reports = ⟨.ok (), reports⟩ := by
  unfold judge
  split <;> rfl

@[simp]
theorem judge_warn : warn.judge unresolved reports = ⟨.ok (), reports ++ unresolved⟩ := by
  unfold judge
  split
  · rename_i hempty
    rw [List.isEmpty_iff.mp hempty, List.append_nil]
  · rfl

theorem judge_throw_of_ne_nil {unresolved : List Unresolved} (hne : unresolved ≠ []) :
    throw.judge unresolved reports = ⟨.error ⟨unresolved⟩, reports⟩ := by
  unfold judge
  rw [if_neg (by simpa using hne)]

@[simp]
theorem judge_nil (policy : Policy) : policy.judge [] reports = ⟨.ok (), reports⟩ := rfl

end Policy

namespace Navigation

variable {spec : Json} {registry : Registry} {policy : Policy} {reports : List Unresolved}
  {parsed : ParsedSpec}

theorem ofParsed_result_eq_ok {nav : Navigation}
    (hnav : (ofParsed parsed policy reports).result = .ok nav) : nav = ofItems parsed.items := by
  unfold ofParsed at hnav
  split at hnav
  · exact (Except.ok.inj hnav).symm
  · simp at hnav

theorem ofParsed_ignore : ofParsed parsed .ignore reports = ⟨.ok (ofItems parsed.items), reports⟩ := by
  rw [ofParsed, Policy.judge_ignore]

theorem ofParsed_warn :
    ofParsed parsed .warn reports =
      ⟨.ok (ofItems parsed.items), reports ++ parsed.unresolved⟩ := by
  rw [ofParsed, Policy.judge_warn]

theorem ofParsed_of_unresolved_eq_nil (hnil : parsed.unresolved = []) :
    ofParsed parsed policy reports = ⟨.ok (ofItems parsed.items), reports⟩ := by
  rw [ofParsed, hnil, Policy.judge_nil]

theorem ofParsed_throw (hne : parsed.unresolved ≠ []) :
    ofParsed parsed .throw reports = ⟨.error (.fatal ⟨parsed.unresolved⟩), reports⟩ := by
  rw [ofParsed, Policy.judge_throw_of_ne_nil reports hne]

theorem build_of_parse_eq_ok (hparse : Spec.parse spec registry = .ok parsed) :
    build spec registry policy reports = ofParsed parsed policy reports := by
  rw [build, hparse]

theorem build_of_parse_eq_error {cause : SpecError} (hparse : Spec.parse spec registry = .error cause) :
    build spec registry policy reports = ⟨.error (.spec cause), reports⟩ := by
  rw [build, hparse]

theorem build_result_eq_ok {nav : Navigation}
    (hbuild : (build spec registry policy reports).result = .ok nav) :
    ∃ parsed, Spec.parse spec registry = .ok parsed ∧ nav = ofItems parsed.items := by
  cases hparse : Spec.parse spec registry with
  | error cause => simp [build_of_parse_eq_error hparse] at hbuild
  | ok parsed =>
      rw [build_of_parse_eq_ok hparse] at hbuild
      exact ⟨parsed, rfl, ofParsed_result_eq_ok hbuild⟩

/-- **The policy only decides about unresolved references.** A spec that cannot be read fails alike
under every policy and reports nothing. Any other spec has one navigation, that of its tree without
the leaves of unknown documents, which is also what the spec gives under any policy once these
references are struck out of it. The unresolved references are dropped, reported in document order
after what was reported before, or all of them are the error. -/
theorem build_by_policy (spec : Json) (registry : Registry) (reports : List Unresolved) :
    (∀ cause, Spec.parse spec registry = .error cause →
      ∀ policy, build spec registry policy reports = ⟨.error (.spec cause), reports⟩) ∧
    (∀ parsed, Spec.parse spec registry = .ok parsed →
      ∃ nav, nav = ofItems (Item.pruneAll registry.contains (Spec.declared spec)) ∧
        (∀ policy before,
          build (Spec.prune registry.contains spec) registry policy before = ⟨.ok nav, before⟩) ∧
        build spec registry .ignore reports = ⟨.ok nav, reports⟩ ∧
        build spec registry .warn reports =
          ⟨.ok nav, reports ++ Spec.unresolved registry.contains spec⟩ ∧
        (Spec.unresolved registry.contains spec = [] →
          build spec registry .throw reports = ⟨.ok nav, reports⟩) ∧
        (Spec.unresolved registry.contains spec ≠ [] →
          build spec registry .throw reports =
            ⟨.error (.fatal ⟨Spec.unresolved registry.contains spec⟩), reports⟩)) := by
  refine ⟨fun cause hparse policy => build_of_parse_eq_error hparse, fun parsed hparse => ?_⟩
  obtain ⟨pruned, hpruned, hitems, hnil⟩ := Spec.parse_prune hparse
  obtain ⟨_, _, hparsed⟩ := Spec.parse_eq_ok_iff.mp hparse
  have hmissing : Spec.unresolved registry.contains spec = parsed.unresolved := by
    rw [hparsed]
    rfl
  refine ⟨ofItems parsed.items, by rw [hparsed]; rfl, fun policy before => ?_, ?_⟩
  · rw [build_of_parse_eq_ok hpruned, ofParsed_of_unresolved_eq_nil hnil, hitems]
  · rw [hmissing]
    simp only [build_of_parse_eq_ok hparse]
    exact ⟨ofParsed_ignore, ofParsed_warn, ofParsed_of_unresolved_eq_nil, ofParsed_throw⟩

theorem build_by_policy_sample :
    build (.arr [.str "ghost", .null]) Spec.sampleRegistry .warn [⟨"old", .sidebar []⟩] =
        ⟨.error (.spec (.invalid ⟨"", [.entry 1]⟩ (.notANode "null"))), [⟨"old", .sidebar []⟩]⟩ ∧
      build Spec.sampleSpec Spec.sampleRegistry .warn [⟨"old", .sidebar []⟩] =
        ⟨.ok (ofItems Spec.sampleParsed.items),
          ⟨"old", .sidebar []⟩ :: Spec.sampleParsed.unresolved⟩ ∧
      build Spec.sampleSpec Spec.sampleRegistry .throw [⟨"old", .sidebar []⟩] =
        ⟨.error (.fatal ⟨Spec.sampleParsed.unresolved⟩), [⟨"old", .sidebar []⟩]⟩ := by
  have hmalformed : Spec.parse (.arr [.str "ghost", .null]) Spec.sampleRegistry =
      .error (.invalid ⟨"", [.entry 1]⟩ (.notANode "null")) := rfl
  have hparse : Spec.parse Spec.sampleSpec Spec.sampleRegistry = .ok Spec.sampleParsed := rfl
  have hmissing : Spec.unresolved Spec.sampleRegistry.contains Spec.sampleSpec ≠ [] := by decide
  obtain ⟨nav, rfl, _, _, hwarn, _, hthrow⟩ :=
    (build_by_policy Spec.sampleSpec Spec.sampleRegistry [⟨"old", .sidebar []⟩]).2 _ hparse
  exact ⟨(build_by_policy _ _ _).1 _ hmalformed .warn, hwarn, hthrow hmissing⟩

end Navigation

end Signpost
