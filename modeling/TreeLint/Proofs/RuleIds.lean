import TreeLint.Proofs.Compile
import TreeLint.Proofs.Validation

/-!
Under which ids the rules of a configuration report. The ids that they are written with are all
different, and their compiled ids are these without blanks at the ends. So two rules report under one
id just where their ids differ in such blanks only.
-/
namespace TreeLint

namespace Report

/-- The findings that a report lists for an id. -/
def foundFor (report : Report) (id : String) : List Violation :=
  (Ascending.find? id report.byRule).getD []

theorem foundFor_eq (report : Report) (id : String) :
    report.foundFor id = report.violations.filter (·.ruleId = id) := by
  rw [foundFor, find?_byRule]
  split_ifs with h
  · rfl
  · refine (List.filter_eq_nil_iff.mpr fun v hv hid => h ?_).symm
    exact List.mem_map.mpr ⟨v, hv, of_decide_eq_true hid⟩

end Report

namespace ConfiguredRule

/-- The id that a rule has when it is compiled. -/
def compiledId? (r : ConfiguredRule) : Option String := r.compiled.toOption.map (·.id)

theorem compiledId?_eq_some {r : ConfiguredRule} {id : String} :
    r.compiledId? = some id ↔ ∃ spec, r.compiled = .ok spec ∧ spec.id = id := by
  unfold compiledId?
  cases r.compiled <;> simp [Except.toOption]

/-- A rule has findings under its compiled id only, once what is told of broken rules is left out. -/
theorem filter_findings_of_ne (c : Configuration) (view : FileView) {r : ConfiguredRule}
    {id : String} (h : r.compiledId? ≠ some id) :
    (r.findings c view).filter (fun v => v.ruleId = id ∧ v.code ≠ misconfiguredCode) = [] := by
  refine List.filter_eq_nil_iff.mpr fun v hv hkept => ?_
  obtain ⟨hid, hcode⟩ := of_decide_eq_true hkept
  rw [ruleId_of_mem_findings c view hv, reportId] at hid
  cases hcompiled : r.compiled with
  | error e =>
    rw [findings_of_error c view hcompiled] at hv
    obtain rfl := List.mem_singleton.mp hv
    exact hcode rfl
  | ok spec =>
    rw [hcompiled] at hid
    exact h (compiledId?_eq_some.mpr ⟨spec, hcompiled, hid⟩)

theorem filter_findings_of_eq (c : Configuration) (view : FileView) {r : ConfiguredRule}
    {spec : RuleSpec} (h : r.compiled = .ok spec) :
    (r.findings c view).filter (fun v => v.ruleId = spec.id ∧ v.code ≠ misconfiguredCode) =
      r.findings c view := by
  refine List.filter_eq_self.mpr fun v hv => decide_eq_true ?_
  rw [findings_of_ok c view h] at hv
  obtain ⟨place, -, hmade⟩ := RuleKind.makes_of_mem_check hv
  exact ⟨hmade.ruleId, fun hcode => spec.kind.misconfiguredCode_notMem_codes (hcode ▸ hmade.code)⟩

end ConfiguredRule

namespace Configuration

/-- The ids of the rules that compile, in the order of the rules. -/
def compiledIds (c : Configuration) : List String := c.rules.filterMap (·.compiledId?)

/-- Where compiled ids differ, that of a rule is not that of a rule before or after it. -/
theorem compiledId?_ne_of_nodup {c : Configuration} (hids : c.compiledIds.Nodup)
    {before after : List ConfiguredRule} {r s : ConfiguredRule}
    (hrules : c.rules = before ++ r :: after) {id : String} (hid : r.compiledId? = some id)
    (hs : s ∈ before ∨ s ∈ after) : s.compiledId? ≠ some id := by
  rw [compiledIds, hrules, List.filterMap_append, List.filterMap_cons_some hid,
    List.nodup_middle, List.nodup_cons, List.mem_append] at hids
  exact fun hsame => hids.1 (hs.imp (List.mem_filterMap.mpr ⟨s, ·, hsame⟩)
    (List.mem_filterMap.mpr ⟨s, ·, hsame⟩))

/-- Where compiled ids differ, what is found under the id of a rule is what the rule finds. -/
theorem foundFor_run (c : Configuration) (hids : c.compiledIds.Nodup) (view : FileView)
    {r : ConfiguredRule} (hr : r ∈ c.rules) {spec : RuleSpec} (h : r.compiled = .ok spec) :
    ((c.run view).foundFor spec.id).filter (·.code ≠ ConfiguredRule.misconfiguredCode) =
      Report.sorted (r.findings c view) := by
  have hid : r.compiledId? = some spec.id := ConfiguredRule.compiledId?_eq_some.mpr ⟨spec, h, rfl⟩
  have hkept : (c.findings view).filter
      (fun v => v.ruleId = spec.id ∧ v.code ≠ ConfiguredRule.misconfiguredCode) =
        r.findings c view := by
    obtain ⟨before, after, hrules⟩ := List.append_of_mem hr
    have hother (s : ConfiguredRule) (hs : s ∈ before ∨ s ∈ after) :=
      ConfiguredRule.filter_findings_of_ne c view (compiledId?_ne_of_nodup hids hrules hid hs)
    rw [findings, hrules, List.filter_flatMap, List.flatMap_append, List.flatMap_cons,
      List.flatMap_eq_nil_iff.mpr fun s hs => hother s (.inl hs),
      List.flatMap_eq_nil_iff.mpr fun s hs => hother s (.inr hs),
      ConfiguredRule.filter_findings_of_eq c view h, List.nil_append, List.append_nil]
  rw [Report.foundFor_eq, violations_run, List.filter_filter, ← hkept, ← Report.filter_sorted]
  refine List.filter_congr fun v _ => ?_
  rw [Bool.and_comm, ← Bool.decide_and]

section Ids

variable [Explanations] {c : Configuration} (hsettled : c.Settled)
include hsettled

theorem Settled.compiledId?_eq {r : ConfiguredRule} (hr : r ∈ c.rules) {id : String}
    (h : r.compiledId? = some id) : id = Unicode.trim r.document.id ∧ id ≠ "" := by
  obtain ⟨spec, hspec, rfl⟩ := ConfiguredRule.compiledId?_eq_some.mp h
  rw [hsettled.compiled r hr] at hspec
  obtain ⟨htrim, hne, -⟩ := RuleSpec.compile_ok hspec
  exact ⟨htrim, hne⟩

/-- Compiled ids differ just where no two rules have ids that differ in blanks at the ends only. -/
theorem Settled.nodup_compiledIds_iff : c.compiledIds.Nodup ↔
    ∀ r ∈ c.rules, ∀ s ∈ c.rules, r.compiledId?.isSome → s.compiledId?.isSome →
      Unicode.trim r.document.id = Unicode.trim s.document.id → r.document.id = s.document.id := by
  constructor
  · intro hids r hr s hs hrsome hssome htrim
    obtain ⟨id, hid⟩ := Option.isSome_iff_exists.mp hrsome
    obtain ⟨id', hid'⟩ := Option.isSome_iff_exists.mp hssome
    obtain ⟨before, after, hrules⟩ := List.append_of_mem hr
    have hplace : s = r ∨ s ∈ before ∨ s ∈ after := by
      rw [hrules, List.mem_append, List.mem_cons] at hs
      tauto
    rcases hplace with rfl | hother
    · rfl
    · have hsame : id' = id := by
        rw [(hsettled.compiledId?_eq hs hid').1, (hsettled.compiledId?_eq hr hid).1, htrim]
      exact absurd (hsame ▸ hid') (compiledId?_ne_of_nodup hids hrules hid hother)
  · intro htrims
    rw [compiledIds, List.Nodup, List.pairwise_filterMap]
    refine hsettled.distinct.imp_of_mem fun {r s} hr hs hdistinct id hid id' hid' hsame => ?_
    obtain ⟨hrtrim, hne⟩ := hsettled.compiledId?_eq hr hid
    obtain ⟨hstrim, -⟩ := hsettled.compiledId?_eq hs hid'
    have hwritten := htrims r hr s hs (by rw [hid]; rfl) (by rw [hid']; rfl)
      (hrtrim.symm.trans (hsame.trans hstrim))
    have htrim : Unicode.trim "" = "" := rfl
    rw [hdistinct hwritten, htrim] at hrtrim
    exact hne hrtrim

end Ids

/-- Rules are compiled to the ids that they are written with, without blanks at the ends. Two of them
get the same id just where their ids differ in these blanks; where none do, what a report lists for
the id of a rule is what the rule finds, apart from what is told of broken rules. -/
theorem compiledIds_of_build [Explanations] {root : HostPath} {source : ConfigSource}
    {document : Option Document} {presets : PresetSource} {c : Configuration}
    (h : build root source document presets = .ok c) :
    (∀ r ∈ c.rules, ∀ spec, r.compiled = .ok spec →
      spec.id = Unicode.trim r.document.id ∧ spec.id ≠ "") ∧
    (c.rules.Pairwise fun r s => r.document.id = s.document.id → r.document.id = "") ∧
    (c.compiledIds.Nodup ↔
      ∀ r ∈ c.rules, ∀ s ∈ c.rules, r.compiledId?.isSome → s.compiledId?.isSome →
        Unicode.trim r.document.id = Unicode.trim s.document.id → r.document.id = s.document.id) ∧
    (c.compiledIds.Nodup → ∀ view, ∀ r ∈ c.rules, ∀ spec, r.compiled = .ok spec →
      ((c.run view).foundFor spec.id).filter (·.code ≠ "CONFIG001") =
        Report.sorted (r.findings c view)) := by
  have hsettled := settled_of_build h
  refine ⟨fun r hr spec hspec => ?_, hsettled.distinct, hsettled.nodup_compiledIds_iff,
    fun hids view r hr spec hspec => c.foundFor_run hids view hr hspec⟩
  exact hsettled.compiledId?_eq hr (ConfiguredRule.compiledId?_eq_some.mpr ⟨spec, hspec, rfl⟩)

attribute [local instance] Explanations.brief

/-- A rule for `src`, with some id, that asks for one entry. -/
def entryRule (id entry : String) : RuleDocument where
  id
  kind := "directory-structure"
  options := [("directories", .string "src"), ("required", .strings [entry])]

def ofEntryRules (rules : List RuleDocument) : Except ConfigError Configuration :=
  build ⟨"/p"⟩ (.project ⟨"/p/struct-lint.json"⟩) (some { rules := some rules })
    (PresetSource.ofTexts [])

theorem compiledIds_of_build_padded :
    ∃ c, ofEntryRules [entryRule " types" "types", entryRule "tests" "tests"] = .ok c ∧
      c.compiledIds = ["types", "tests"] ∧
      ∀ view, ∀ r ∈ c.rules, ∀ spec, r.compiled = .ok spec →
        ((c.run view).foundFor spec.id).filter (·.code ≠ "CONFIG001") =
          Report.sorted (r.findings c view) := by
  have hvalues : (ofEntryRules [entryRule " types" "types", entryRule "tests" "tests"]).toOption.map
      compiledIds = some ["types", "tests"] := by
    decide +kernel
  obtain ⟨c, hbuild, hids⟩ := ok_of_toOption_map hvalues
  exact ⟨c, hbuild, hids, (compiledIds_of_build hbuild).2.2.2 (by rw [hids]; decide)⟩

/-- Two rules whose ids differ in a blank at the end report under one id. -/
theorem compiledIds_padded_twice :
    ∃ c, ofEntryRules [entryRule "layout" "types", entryRule "layout " "tests"] = .ok c ∧
      c.rules.map (·.document.id) = ["layout", "layout "] ∧
      c.compiledIds = ["layout", "layout"] ∧ ¬c.compiledIds.Nodup ∧
      (c.rules.map fun r => (r.findings c (Tree.ofList [("src/a.ts", "")]).view).length) = [1, 1] ∧
      ((c.run (Tree.ofList [("src/a.ts", "")]).view).foundFor "layout").length = 2 := by
  have hvalues :
      (ofEntryRules [entryRule "layout" "types", entryRule "layout " "tests"]).toOption.map (fun c =>
        (c.rules.map (·.document.id), c.compiledIds,
          c.rules.map fun r => (r.findings c (Tree.ofList [("src/a.ts", "")]).view).length,
          ((c.findings (Tree.ofList [("src/a.ts", "")]).view).filter (·.ruleId = "layout")).length)) =
      some (["layout", "layout "], ["layout", "layout"], [1, 1], 2) := by
    decide +kernel
  obtain ⟨c, hbuild, hread⟩ := ok_of_toOption_map hvalues
  simp only [Prod.mk.injEq] at hread
  obtain ⟨hwritten, hids, hone, hboth⟩ := hread
  refine ⟨c, hbuild, hwritten, hids, by rw [hids]; decide, hone, ?_⟩
  rw [Report.foundFor_eq, violations_run]
  exact (((Report.sorted_perm _).filter _).length_eq).trans hboth

end Configuration
end TreeLint
