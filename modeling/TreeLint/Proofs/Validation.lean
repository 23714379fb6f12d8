import TreeLint.Proofs.Precedence
import TreeLint.Proofs.Run
import TreeLint.Rule.Problem

/-!
Looking for problems in the rules of a configuration tells what a run of it would tell: there is one
problem for each rule that a run reports as broken or skips, and there are no others.
-/
namespace TreeLint

namespace RuleDocument

/-- Where no id is given twice, all problems are faults of single rules. -/
theorem problemsFrom_of_distinct [Explanations] {seen : List String} {rules : List RuleDocument}
    (hrules : rules.Pairwise fun a b => a.id = b.id → a.id = "")
    (hseen : ∀ r ∈ rules, r.id ∈ seen → r.id = "") (position : ℕ) :
    problemsFrom seen position rules =
      (rules.zipIdx position).filterMap fun (r, i) => r.fault?.map (⟨i, r.id, ·⟩) := by
  induction rules generalizing seen position with
  | nil => rfl
  | cons r rest ih =>
    obtain ⟨hother, hrest⟩ := List.pairwise_cons.mp hrules
    -- the id of each rule is new when the rule is come to, so that nothing is said of it
    have hnew : ¬(r.id ≠ "" ∧ r.id ∈ seen) := fun h => h.1 (hseen r (by simp) h.2)
    have hlater : ∀ s ∈ rest, s.id ∈ r.id :: seen → s.id = "" := by
      intro s hs hmem
      rcases List.mem_cons.mp hmem with hid | hmem
      · exact hid.trans (hother s hs hid.symm)
      · exact hseen s (List.mem_cons_of_mem r hs) hmem
    rw [problemsFrom, ih hrest hlater, problems, if_neg hnew, List.nil_append,
      List.zipIdx_cons, List.filterMap_cons]
    cases h : r.fault? with
    | none => simp [h]
    | some cause => simp [h]

end RuleDocument

namespace ConfiguredRule

/-- What keeps a rule from being checked in a run. -/
def fault? (r : ConfiguredRule) : Option ProblemCause :=
  match r.compiled with
  | .error e => some (.broken e)
  | .ok spec => if spec.kind.isSupported then none else some (.unsupported spec.kind.name)

/-- What a run makes of a rule with some fault, or with none. -/
inductive Shows (r : ConfiguredRule) (c : Configuration) (view : FileView) :
    Option ProblemCause → Outcome → Prop
  | broken (e : RuleError) (hcompiled : r.compiled = .error e) :
    Shows r c view (some (.broken e)) (.ran [r.misconfigured e])
  | unsupported (spec : RuleSpec) (hcompiled : r.compiled = .ok spec)
    (hkind : spec.kind.isSupported = false) :
    Shows r c view (some (.unsupported spec.kind.name)) (.skipped spec.id)
  | checked (spec : RuleSpec) (hcompiled : r.compiled = .ok spec)
    (hkind : spec.kind.isSupported = true) :
    Shows r c view none (.ran (spec.kind.check (spec.scope c view)))

section Run

variable (r : ConfiguredRule) (c : Configuration) (view : FileView)

theorem shows_run : r.Shows c view r.fault? (r.run c view) := by
  unfold fault? run
  cases hcompiled : r.compiled with
  | error e => exact .broken e hcompiled
  | ok spec =>
    cases hkind : spec.kind.isSupported with
    | true => simpa [hkind] using Shows.checked spec hcompiled hkind
    | false => simpa [hkind] using Shows.unsupported spec hcompiled hkind

theorem fault?_eq_none_iff : r.fault? = none ↔ ∃ spec, r.compiled = .ok spec ∧
    r.run c view = .ran (spec.kind.check (spec.scope c view)) := by
  unfold fault? run
  cases r.compiled with
  | error e => simp
  | ok spec => cases hkind : spec.kind.isSupported <;> simp [hkind]

end Run

/-- A rule with a fault is either broken or skipped. -/
theorem count_fault? (rules : List ConfiguredRule) : rules.countP (·.fault?.isSome) =
    rules.countP (·.isBroken) + rules.countP (·.skippedId?.isSome) := by
  induction rules with
  | nil => rfl
  | cons r rest ih =>
    have hone : (if r.fault?.isSome then 1 else 0) =
        (if r.isBroken then 1 else 0) + if r.skippedId?.isSome then 1 else 0 := by
      unfold fault? isBroken skippedId?
      cases r.compiled with
      | error e => rfl
      | ok spec => cases h : spec.kind.isSupported <;> simp [h]
    rw [List.countP_cons, List.countP_cons, List.countP_cons, ih, hone]
    omega

end ConfiguredRule

namespace Configuration

section Problems

variable [Explanations]

/-- What a configuration keeps of its documents: its rules are compiled as they are written, and
none of them is disabled or has the id of another one. -/
structure Settled (c : Configuration) : Prop where
  compiled : ∀ r ∈ c.rules, r.compiled = RuleSpec.compile r.document
  enabled : ∀ r ∈ c.rules, r.document.disabled = false
  distinct : c.rules.Pairwise fun a b => a.document.id = b.document.id → a.document.id = ""

theorem settled_of_ofMerged {documents : List (Document × String)} {named : List NamedDocument}
    {presets : List String} {source : ConfigSource} {c : Configuration}
    (h : ofMerged (Merged.ofDocuments documents) named presets source = .ok c) : c.Settled := by
  obtain ⟨included, ignore, -, -, rfl⟩ := ofMerged_ok h
  constructor
  · simp [ConfiguredRule.ofDocument]
  · intro r hr
    obtain ⟨kept, hkept, rfl⟩ := List.mem_map.mp hr
    exact Merged.enabled_of_mem_ofDocuments hkept
  · exact List.pairwise_map.mpr (Merged.distinctIds_ofDocuments documents)

theorem settled_of_build {root : HostPath} {source : ConfigSource} {document : Option Document}
    {presets : PresetSource} {c : Configuration}
    (h : build root source document presets = .ok c) : c.Settled := by
  cases document with
  | none =>
    have hmerged : ofMerged (.ofDocuments [(Preset.defaults, defaultsName)]) [] [] source = .ok c := h
    exact settled_of_ofMerged hmerged
  | some d =>
    obtain ⟨chain, -, hmerged⟩ := ofMerged_of_build h
    exact settled_of_ofMerged hmerged

/-- The problems that are found in the rules of a configuration without running it. -/
def problems (c : Configuration) : List RuleProblem :=
  RuleDocument.allProblems (c.rules.map (·.document))

/-- What is wrong with a rule as it is written is what keeps it from being checked. -/
theorem Settled.fault?_document {c : Configuration} (h : c.Settled) {r : ConfiguredRule}
    (hr : r ∈ c.rules) : r.document.fault? = r.fault? := by
  rw [RuleDocument.fault?, ConfiguredRule.fault?, h.enabled r hr, h.compiled r hr]
  cases RuleSpec.compile r.document <;> rfl

theorem Settled.problems_eq {c : Configuration} (h : c.Settled) :
    c.problems = c.rules.zipIdx.filterMap fun (r, i) => r.fault?.map (⟨i, r.document.id, ·⟩) := by
  rw [problems, RuleDocument.allProblems, RuleDocument.problemsFrom_of_distinct
    (List.pairwise_map.mpr h.distinct) (by simp), List.zipIdx_map, List.filterMap_map]
  refine List.filterMap_congr fun (r, i) hr => ?_
  simp only [Function.comp_apply, Prod.map, id, h.fault?_document (List.fst_mem_of_mem_zipIdx hr)]

theorem Settled.length_problems {c : Configuration} (h : c.Settled) :
    c.problems.length = c.rules.countP (·.fault?.isSome) := by
  rw [h.problems_eq, List.length_filterMap_eq_countP]
  conv_rhs => rw [← List.zipIdx_map_fst 0 c.rules, List.countP_map]
  exact List.countP_congr fun (r, i) _ => by simp

/-- Problems are found in the rules that a run reports as broken or skips, one in each, in the order
of the rules. None are found just where a run checks all rules. -/
theorem problems_agree_run {root : HostPath} {source : ConfigSource} {document : Option Document}
    {presets : PresetSource} {c : Configuration}
    (h : build root source document presets = .ok c) (view : FileView) :
    c.problems.length = ((c.run view).violations.filter (·.code = "CONFIG001")).length +
      (c.run view).skipped.length ∧
    c.problems = c.rules.zipIdx.filterMap (fun (r, i) => r.fault?.map (⟨i, r.document.id, ·⟩)) ∧
    (∀ r ∈ c.rules, r.Shows c view r.fault? (r.run c view)) ∧
    (c.problems = [] ↔ ∀ r ∈ c.rules, ∃ spec, r.compiled = .ok spec ∧
      r.run c view = .ran (spec.kind.check (spec.scope c view))) := by
  have hsettled := settled_of_build h
  refine ⟨?_, hsettled.problems_eq, fun r _ => r.shows_run c view, ?_⟩
  · have hbroken := c.count_misconfigured_run view
    rw [ConfiguredRule.misconfiguredCode] at hbroken
    rw [hbroken, length_skipped_run, hsettled.length_problems, ConfiguredRule.count_fault?]
  · rw [← List.length_eq_zero_iff, hsettled.length_problems, List.countP_eq_zero]
    refine forall₂_congr fun r _ => ?_
    rw [← r.fault?_eq_none_iff c view, Option.not_isSome_iff_eq_none]

end Problems

attribute [local instance] Explanations.brief

/-- A rule that can be checked, one that nothing can check, and two that are broken, of which the
last has no id. -/
def mixedRules : List RuleDocument := [
  { id := "layout", kind := "directory-structure",
    options := [("directories", .string "src"), ("required", .strings ["types"])] },
  { id := "names", kind := "naming" },
  { id := "layers", kind := "import-boundary" },
  { kind := "naming" }]

def ofMixedRules : Except ConfigError Configuration :=
  build ⟨"/p"⟩ .defaults (some { rules := some mixedRules }) (PresetSource.ofTexts [])

theorem problems_agree_run_mixed : ∃ c, ofMixedRules = .ok c ∧
    c.problems.map (·.message) =
      ["rule `names`: unsupported kind `naming`",
        "rule `layers`: rule `layers`: at least one layer must be declared",
        "rules.custom[3]: rule is missing required field `id`"] ∧
    (c.run (Tree.ofList [("src/a.ts", "")]).view).skipped = ["names"] ∧
    ((c.run (Tree.ofList [("src/a.ts", "")]).view).violations.filter
      (·.code = "CONFIG001")).length = 2 := by
  have hvalues : ofMixedRules.toOption.map (fun c => (c.problems.map (·.message),
      c.rules.filterMap (·.skippedId?))) =
      some (["rule `names`: unsupported kind `naming`",
        "rule `layers`: rule `layers`: at least one layer must be declared",
        "rules.custom[3]: rule is missing required field `id`"], ["names"]) := by
    decide +kernel
  obtain ⟨c, hbuild, hread⟩ := ok_of_toOption_map hvalues
  obtain ⟨hmessages, hskipped⟩ := Prod.mk.inj hread
  have hcount := (problems_agree_run hbuild (Tree.ofList [("src/a.ts", "")]).view).1
  rw [skipped_run, hskipped, ← List.length_map (·.message), hmessages] at hcount
  refine ⟨c, hbuild, hmessages, (skipped_run c _).trans hskipped, ?_⟩
  simp only [List.length_cons, List.length_nil] at hcount
  omega

end Configuration
end TreeLint
