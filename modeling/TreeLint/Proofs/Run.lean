import TreeLint.Proofs.Findings
import TreeLint.Proofs.Report
import TreeLint.Tree

/-!
What a report tells of the rules of a configuration. Each rule is told of once, by its findings or as
skipped, and a report stays the same when the rules change places, as long as no two of them report
under the same id.
-/
namespace TreeLint

theorem Outcome.isRun_eq (outcome : Outcome) : outcome.isRun = outcome.skipped?.isNone := by
  cases outcome <;> rfl

theorem flatMap_eq_of_perm {α β : Type} {f : α → List β} {xs ys : List α} (h : xs.Perm ys)
    (hone : xs.Pairwise fun a b => f a = [] ∨ f b = []) : xs.flatMap f = ys.flatMap f := by
  induction h with
  | nil => rfl
  | cons x _ ih =>
    rw [List.flatMap_cons, List.flatMap_cons, ih (List.pairwise_cons.mp hone).2]
  | swap x y zs =>
    -- one of the two gives nothing, so that it does not matter which of them is first
    have hempty : f y = [] ∨ f x = [] := (List.pairwise_cons.mp hone).1 x (List.mem_cons_self ..)
    simp only [List.flatMap_cons]
    rcases hempty with hempty | hempty
    · rw [hempty, List.nil_append, List.nil_append]
    · rw [hempty, List.nil_append, List.nil_append]
  | trans hxy _ ihx ihy =>
    exact (ihx hone).trans (ihy ((hxy.pairwise_iff Or.symm).mp hone))

namespace ConfiguredRule

section Findings

variable (r : ConfiguredRule) (c : Configuration) (view : FileView)

/-- What a rule adds to the findings of a run. -/
def findings : List Violation := (r.run c view).violations

def isBroken : Bool :=
  match r.compiled with
  | .error _ => true
  | .ok _ => false

/-- The id of a rule that nothing can check. -/
def skippedId? : Option String :=
  match r.compiled with
  | .error _ => none
  | .ok spec => if spec.kind.isSupported then none else some spec.id

/-- The id that a rule reports under. -/
def reportId : String :=
  match r.compiled with
  | .error _ => if r.document.id = "" then unnamed else r.document.id
  | .ok spec => spec.id

variable {r}

theorem findings_of_error {e : RuleError} (h : r.compiled = .error e) :
    r.findings c view = [r.misconfigured e] := by
  simp [findings, run, h, Outcome.violations]

theorem findings_of_ok {spec : RuleSpec} (h : r.compiled = .ok spec) :
    r.findings c view = spec.kind.check (spec.scope c view) := by
  simp only [findings, run, h]
  cases hkind : spec.kind <;> rfl

theorem run_of_unsupported {spec : RuleSpec} {kind : String} (h : r.compiled = .ok spec)
    (hkind : spec.kind = .unsupported kind) : r.run c view = .skipped spec.id := by
  simp [run, h, hkind, RuleKind.isSupported]

variable (r)

theorem skipped?_run : (r.run c view).skipped? = r.skippedId? := by
  unfold run skippedId?
  cases r.compiled with
  | error e => rfl
  | ok spec =>
    by_cases h : spec.kind.isSupported = true
    · simp [h, Outcome.skipped?]
    · simp [h, Outcome.skipped?]

theorem isRun_run : (r.run c view).isRun = r.skippedId?.isNone := by
  rw [Outcome.isRun_eq, skipped?_run]

/-- The code of rules that do not compile is used by these rules only, and once by each. -/
theorem filter_code_findings :
    ((r.findings c view).filter (·.code = misconfiguredCode)).length =
      if r.isBroken then 1 else 0 := by
  unfold isBroken
  cases h : r.compiled with
  | error e =>
    rw [findings_of_error c view h]
    simp [misconfigured]
  | ok spec =>
    rw [findings_of_ok c view h]
    simp only [Bool.false_eq_true, if_false, List.length_eq_zero_iff, List.filter_eq_nil_iff,
      decide_eq_true_eq]
    intro v hv hcode
    obtain ⟨place, -, hmade⟩ := RuleKind.makes_of_mem_check hv
    exact spec.kind.misconfiguredCode_notMem_codes (hcode ▸ hmade.code)

variable {r}

theorem ruleId_of_mem_findings {v : Violation} (h : v ∈ r.findings c view) :
    v.ruleId = r.reportId := by
  unfold reportId
  cases hcompiled : r.compiled with
  | error e =>
    rw [findings_of_error c view hcompiled] at h
    obtain rfl := List.mem_singleton.mp h
    rfl
  | ok spec =>
    rw [findings_of_ok c view hcompiled] at h
    obtain ⟨place, -, hmade⟩ := RuleKind.makes_of_mem_check h
    exact hmade.ruleId

end Findings
end ConfiguredRule

namespace Configuration

section Run

variable (c : Configuration) (view : FileView)

/-- All findings, in the order of the rules. -/
def findings : List Violation := c.rules.flatMap fun r => r.findings c view

theorem violations_run : (c.run view).violations = Report.sorted (c.findings view) := by
  rw [run, findings, outcomes, List.flatMap_map]
  rfl

theorem skipped_run : (c.run view).skipped = c.rules.filterMap (·.skippedId?) := by
  rw [run, outcomes, List.filterMap_map]
  exact List.filterMap_congr fun r _ => r.skipped?_run c view

theorem rulesRun_run : (c.run view).rulesRun = c.rules.countP (·.skippedId?.isNone) := by
  rw [run, outcomes, List.filter_map, List.length_map, List.countP_eq_length_filter]
  exact congrArg List.length (List.filter_congr fun r _ => r.isRun_run c view)

/-- What a file holds shows in the findings only. -/
theorem run_eq : c.run view = ⟨Report.sorted (c.findings view),
    c.rules.countP (·.skippedId?.isNone), c.rules.filterMap (·.skippedId?)⟩ := by
  rw [← c.violations_run view, ← c.rulesRun_run view, ← c.skipped_run view]

theorem length_skipped_run :
    (c.run view).skipped.length = c.rules.countP (·.skippedId?.isSome) := by
  rw [skipped_run, List.length_filterMap_eq_countP]

theorem count_misconfigured_run :
    ((c.run view).violations.filter (·.code = ConfiguredRule.misconfiguredCode)).length =
      c.rules.countP (·.isBroken) := by
  rw [violations_run, ((Report.sorted_perm _).filter _).length_eq, findings]
  induction c.rules with
  | nil => rfl
  | cons r rules ih =>
    rw [List.flatMap_cons, List.filter_append, List.length_append, ih,
      r.filter_code_findings c view, List.countP_cons, Nat.add_comm]

/-- A report that tells of each rule once. -/
structure Accounts (report : Report) : Prop where
  counted : report.rulesRun + report.skipped.length = c.rules.length
  broken : ∀ r ∈ c.rules, ∀ e, r.compiled = .error e → ∃ v, r.run c view = .ran [v] ∧
    v.code = "CONFIG001" ∧ v.message = e.message
  broken_once : (report.violations.filter (·.code = "CONFIG001")).length =
    c.rules.countP (·.isBroken)
  checked : ∀ r ∈ c.rules, ∀ spec, r.compiled = .ok spec →
    r.findings c view = spec.kind.check (spec.scope c view)
  unsupported : ∀ r ∈ c.rules, ∀ spec kind, r.compiled = .ok spec →
    spec.kind = .unsupported kind → r.run c view = .skipped spec.id
  skipped : report.skipped = c.rules.filterMap fun r => (r.run c view).skipped?
  complete : report.violations.Perm (c.findings view)
  ordered : Report.Ordered report.violations
  stable : ∀ k, report.violations.filter (·.key = k) = (c.findings view).filter (·.key = k)
  ids_ascending : (report.byRule.map (·.1)).Pairwise (· < ·)
  byRule : ∀ id, Ascending.find? id report.byRule =
    if id ∈ report.violations.map (·.ruleId) then some (report.violations.filter (·.ruleId = id))
    else none
  byRule_once : (report.byRule.flatMap (·.2)).Perm report.violations

/-- A run tells of each rule once: that it is broken, that nothing can check it, or what it finds.
The findings of all rules are put in order, where those of an earlier rule stay before those of a
later one, and those of one rule as they were found, and they are shared out among the rules. -/
theorem run_accounts : c.Accounts view (c.run view) where
  counted := by
    rw [rulesRun_run, length_skipped_run, List.length_eq_countP_add_countP (·.skippedId?.isNone)]
    exact congrArg _ (List.countP_congr fun r _ => by simp [Option.isSome_iff_ne_none])
  broken r _ e h := ⟨r.misconfigured e, by simp [ConfiguredRule.run, h], rfl, rfl⟩
  broken_once := c.count_misconfigured_run view
  checked r _ spec h := ConfiguredRule.findings_of_ok c view h
  unsupported r _ spec kind h hkind := ConfiguredRule.run_of_unsupported c view h hkind
  skipped := by
    rw [skipped_run]
    exact List.filterMap_congr fun r _ => (r.skipped?_run c view).symm
  complete := by
    rw [violations_run]
    exact Report.sorted_perm _
  ordered := by
    rw [violations_run]
    exact Report.sorted_ordered _
  stable k := by
    rw [violations_run]
    exact Report.filter_key_sorted _ k
  ids_ascending := by
    rw [Report.map_fst_byRule]
    exact Ascending.ofList_sorted _
  byRule := Report.find?_byRule _
  byRule_once := Report.byRule_perm _

end Run

/-- Of two rules that report under different ids, one has no findings under a key. -/
theorem filter_key_findings (c : Configuration) (view : FileView) {r s : ConfiguredRule}
    (h : r.reportId ≠ s.reportId) (k : Violation.Key) :
    (r.findings c view).filter (·.key = k) = [] ∨ (s.findings c view).filter (·.key = k) = [] := by
  refine or_iff_not_imp_left.mpr fun hne => ?_
  obtain ⟨v, hv⟩ := List.exists_mem_of_ne_nil _ hne
  refine List.filter_eq_nil_iff.mpr fun w hw hkey => h ?_
  obtain ⟨hv, hkey'⟩ := List.mem_filter.mp hv
  have hkeys : v.key = w.key := (of_decide_eq_true hkey').trans (of_decide_eq_true hkey).symm
  calc r.reportId = v.ruleId := (ConfiguredRule.ruleId_of_mem_findings c view hv).symm
    _ = w.ruleId := congrArg (fun k : Violation.Key => (ofLex (ofLex k).2).1) hkeys
    _ = s.reportId := ConfiguredRule.ruleId_of_mem_findings c view hw

/-- The same configuration with other rules. -/
def withRules (c : Configuration) (rules : List ConfiguredRule) : Configuration := { c with rules }

/-- Where rules report under different ids, nothing but the list of skipped ids shows their order. -/
theorem run_rules_perm (c : Configuration) (view : FileView) {rules : List ConfiguredRule}
    (hperm : rules.Perm c.rules) (hids : (c.rules.map (·.reportId)).Nodup) :
    ((c.withRules rules).run view).violations = (c.run view).violations ∧
    ((c.withRules rules).run view).byRule = (c.run view).byRule ∧
    ((c.withRules rules).run view).rulesRun = (c.run view).rulesRun ∧
    ((c.withRules rules).run view).skipped.Perm (c.run view).skipped := by
  have hviolations : ((c.withRules rules).run view).violations = (c.run view).violations := by
    rw [violations_run, violations_run]
    refine Report.sorted_congr fun k => ?_
    have hsame : (c.withRules rules).findings view = rules.flatMap fun r => r.findings c view := rfl
    rw [hsame, findings, List.filter_flatMap, List.filter_flatMap]
    refine (flatMap_eq_of_perm hperm.symm ?_).symm
    exact (List.pairwise_map.mp hids).imp fun h => filter_key_findings c view h k
  have houtcomes : ((c.withRules rules).outcomes view).Perm (c.outcomes view) := hperm.map _
  refine ⟨hviolations, ?_, (houtcomes.filter _).length_eq, houtcomes.filterMap _⟩
  rw [Report.byRule, Report.byRule, hviolations]

/-- A rule for one entry of `src`, a rule for two, and a rule that nothing can check. -/
def layoutRules : List ConfiguredRule :=
  [⟨{ id := "api" }, "", none, .ok ⟨"api", .error, .empty, none,
      .directoryStructure ⟨⟨"src", [.literal "src"]⟩, ["types"]⟩⟩⟩,
    ⟨{ id := "layout" }, "", none, .ok ⟨"layout", .error, .empty, none,
      .directoryStructure ⟨⟨"src", [.literal "src"]⟩, ["tests", "docs"]⟩⟩⟩,
    ⟨{ id := "naming" }, "", none, .ok ⟨"naming", .error, .empty, none, .unsupported "naming"⟩⟩]

def layout : Configuration := ⟨1, [], [], .empty, [], [], layoutRules, .defaults, []⟩

theorem run_rules_perm_reversed :
    layoutRules.reverse.Perm layout.rules ∧ (layout.rules.map (·.reportId)).Nodup ∧
    ((layout.withRules layoutRules.reverse).run
        (Tree.ofList [("src/a.ts", "")]).view).violations.map (·.message) =
      ["directory is missing required entry `types`", "directory is missing required entry `tests`",
        "directory is missing required entry `docs`"] := by
  have hperm : layoutRules.reverse.Perm layout.rules := List.reverse_perm _
  have hids : (layout.rules.map (·.reportId)).Nodup := by decide
  refine ⟨hperm, hids, ?_⟩
  rw [(run_rules_perm layout _ hperm hids).1, violations_run, Report.sorted_eq_self (by decide)]
  decide

end Configuration
end TreeLint
