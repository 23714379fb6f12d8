import Mathlib.Tactic.SplitIfs
import TreeLint.Check.Catalogue
import TreeLint.Proofs.Ascending
import TreeLint.Run.Outcome

/-!
What the findings of a rule have in common. Each has the id of the rule and a code that is listed for
the rule's kind, and it is in the place that was looked at when it was found. Places that are ignored
are not looked at.
-/
namespace TreeLint

namespace Scope

theorem not_ignored_of_mem_filesOf {s : Scope} {p : Pattern} {f : ProjectPath}
    (h : f ∈ s.filesOf p) : s.ignore.isIgnored f = false := by
  simpa using (List.mem_filter.mp h).2

theorem not_ignored_of_mem_dirsOf {s : Scope} {p : Pattern} {d : ProjectPath}
    (h : d ∈ s.dirsOf p) : s.ignore.isIgnored d = false := by
  simpa using (List.mem_filter.mp h).2

/-- What a rule selects, one of its patterns or of the included ones does. -/
theorem exists_of_mem_select {s : Scope} {p : Option Pattern} {f : ProjectPath}
    (h : f ∈ s.select p) : ∃ q, f ∈ s.filesOf q := by
  cases p with
  | some p => exact ⟨p, h⟩
  | none =>
    obtain ⟨p, -, hf⟩ := List.mem_flatMap.mp ((Ascending.mem_ofList _ _).mp h)
    exact ⟨p, hf⟩

theorem not_ignored_of_mem_select {s : Scope} {p : Option Pattern} {f : ProjectPath}
    (h : f ∈ s.select p) : s.ignore.isIgnored f = false := by
  obtain ⟨q, hf⟩ := exists_of_mem_select h
  exact not_ignored_of_mem_filesOf hf

theorem mem_inText {s : Scope} {file : ProjectPath} {f : String → List Violation}
    {v : Violation} : v ∈ s.inText file f ↔ ∃ text, s.view.text? file = some text ∧ v ∈ f text := by
  unfold inText
  cases s.view.text? file <;> simp

/-- A place that is looked at: a file or a directory that some pattern selects. -/
def LooksAt (s : Scope) (place : ProjectPath) : Prop :=
  (∃ p, place ∈ s.filesOf p) ∨ ∃ p, place ∈ s.dirsOf p

/-- A finding of a rule with some codes, made in looking at `place`. -/
structure Makes (s : Scope) (codes : List String) (place : ProjectPath) (v : Violation) :
    Prop where
  ruleId : v.ruleId = s.ruleId
  code : v.code ∈ codes
  place : v.location.file = place

end Scope

theorem ImportBoundary.exists_of_mem_all {b : ImportBoundary} {s : Scope} {f : ProjectPath}
    (h : f ∈ LayerFiles.all (b.layerFiles s)) : ∃ p, f ∈ s.filesOf p := by
  obtain ⟨l, hl, hf⟩ := List.mem_flatMap.mp ((Ascending.mem_ofList _ _).mp h)
  obtain ⟨layer, -, rfl⟩ := List.mem_map.mp hl
  exact ⟨layer.membership, hf⟩

theorem ImportBoundary.not_ignored_of_mem_all {b : ImportBoundary} {s : Scope} {f : ProjectPath}
    (h : f ∈ LayerFiles.all (b.layerFiles s)) : s.ignore.isIgnored f = false := by
  obtain ⟨p, hf⟩ := exists_of_mem_all h
  exact Scope.not_ignored_of_mem_filesOf hf

section Places

variable {s : Scope} {file : ProjectPath} {v : Violation}

theorem Relationship.makes_of_mem_checkFile {r : Relationship} (h : v ∈ r.checkFile s file) :
    s.Makes [code] file v := by
  rcases List.mem_append.mp h with h | h
  · obtain ⟨t, -, h⟩ := List.mem_filterMap.mp h
    obtain ⟨companion, -, h⟩ := Option.bind_eq_some_iff.mp h
    split_ifs at h
    rw [← Option.some.inj h]
    exact ⟨rfl, List.mem_singleton_self _, rfl⟩
  · obtain ⟨t, -, h⟩ := List.mem_filterMap.mp h
    obtain ⟨companion, -, h⟩ := Option.bind_eq_some_iff.mp h
    split_ifs at h
    rw [← Option.some.inj h]
    exact ⟨rfl, List.mem_singleton_self _, rfl⟩

theorem ForbiddenImport.makes_of_mem_checkFile {f : ForbiddenImport}
    (h : v ∈ f.checkFile s file) : s.Makes [code] file v := by
  obtain ⟨text, -, h⟩ := Scope.mem_inText.mp h
  obtain ⟨edge, -, h⟩ := List.mem_filterMap.mp h
  obtain ⟨reason, -, rfl⟩ := Option.map_eq_some_iff.mp h
  exact ⟨rfl, List.mem_singleton_self _, rfl⟩

theorem FileContent.makes_of_mem_checkFile {c : FileContent} (h : v ∈ c.checkFile s file) :
    s.Makes [code] file v := by
  obtain ⟨text, -, h⟩ := Scope.mem_inText.mp h
  rcases List.mem_append.mp h with h | h
  · obtain ⟨e, -, h⟩ := Option.bind_eq_some_iff.mp (Option.mem_toList.mp h)
    unfold checkRequired at h
    split at h
    · cases h
    · rw [← Option.some.inj h]
      exact ⟨rfl, List.mem_singleton_self _, rfl⟩
  · obtain ⟨e, -, h⟩ := Option.bind_eq_some_iff.mp (Option.mem_toList.mp h)
    obtain ⟨found, -, rfl⟩ := Option.map_eq_some_iff.mp h
    exact ⟨rfl, List.mem_singleton_self _, rfl⟩

theorem DirectoryStructure.makes_of_mem_checkDir {d : DirectoryStructure}
    (h : v ∈ d.checkDir s file) : s.Makes [code] file v := by
  obtain ⟨entry, -, h⟩ := List.mem_filterMap.mp h
  obtain ⟨path, -, h⟩ := Option.bind_eq_some_iff.mp h
  split_ifs at h
  rw [← Option.some.inj h]
  exact ⟨rfl, List.mem_singleton_self _, rfl⟩

theorem PublicApi.makes_of_mem_checkFile {api : PublicApi} {roots : List ProjectPath}
    (h : v ∈ api.checkFile s roots file) : s.Makes [code] file v := by
  obtain ⟨text, -, h⟩ := Scope.mem_inText.mp h
  obtain ⟨edge, -, h⟩ := List.mem_filterMap.mp h
  obtain ⟨target, -, h⟩ := Option.bind_eq_some_iff.mp h
  obtain ⟨root, -, h⟩ := Option.bind_eq_some_iff.mp h
  split_ifs at h
  rw [← Option.some.inj h]
  exact ⟨rfl, List.mem_singleton_self _, rfl⟩

theorem ImportBoundary.makes_of_overlap {layers : List LayerFiles}
    (h : overlap s layers file = some v) :
    s.Makes [code, overlapCode, unresolvedCode] file v := by
  unfold overlap at h
  split at h
  · rw [← Option.some.inj h]
    exact ⟨rfl, by simp [Scope.warning, Scope.violationAt], rfl⟩
  · cases h

theorem ImportBoundary.makes_of_mem_checkFile {b : ImportBoundary} {layers : List LayerFiles}
    (h : v ∈ b.checkFile s layers file) :
    s.Makes [code, overlapCode, unresolvedCode] file v := by
  unfold checkFile at h
  split at h
  · cases h
  · obtain ⟨text, -, h⟩ := Scope.mem_inText.mp h
    obtain ⟨edge, -, h⟩ := List.mem_filterMap.mp h
    unfold checkEdge at h
    split at h
    · cases h
    · split_ifs at h
      rw [← Option.some.inj h]
      exact ⟨rfl, by simp [Scope.warning, Scope.violationAt], rfl⟩
    · split at h
      · cases h
      · split_ifs at h
        rw [← Option.some.inj h]
        exact ⟨rfl, by simp [crossing, Scope.violation, Scope.violationAt], rfl⟩

end Places

namespace RuleKind

/-- The codes that a kind of rules is listed with. -/
def codes (kind : RuleKind) : List String :=
  ((RuleKindInfo.find? kind.name).map (·.codes)).getD []

theorem makes_of_mem_check {kind : RuleKind} {s : Scope} {v : Violation} (h : v ∈ kind.check s) :
    ∃ place, s.LooksAt place ∧ s.Makes kind.codes place v := by
  cases kind with
  | importBoundary b =>
    rcases List.mem_append.mp h with h | h
    · obtain ⟨file, hfile, h⟩ := List.mem_filterMap.mp h
      exact ⟨file, .inl (ImportBoundary.exists_of_mem_all hfile), ImportBoundary.makes_of_overlap h⟩
    · obtain ⟨file, hfile, h⟩ := List.mem_flatMap.mp h
      exact ⟨file, .inl (ImportBoundary.exists_of_mem_all hfile),
        ImportBoundary.makes_of_mem_checkFile h⟩
  | publicApi api =>
    obtain ⟨file, hfile, h⟩ := List.mem_flatMap.mp h
    exact ⟨file, .inl (Scope.exists_of_mem_select hfile), PublicApi.makes_of_mem_checkFile h⟩
  | relationship r =>
    obtain ⟨file, hfile, h⟩ := List.mem_flatMap.mp h
    exact ⟨file, .inl ⟨_, hfile⟩, Relationship.makes_of_mem_checkFile h⟩
  | forbiddenImport f =>
    obtain ⟨file, hfile, h⟩ := List.mem_flatMap.mp h
    exact ⟨file, .inl ⟨_, hfile⟩, ForbiddenImport.makes_of_mem_checkFile h⟩
  | fileContent c =>
    obtain ⟨file, hfile, h⟩ := List.mem_flatMap.mp h
    exact ⟨file, .inl ⟨_, hfile⟩, FileContent.makes_of_mem_checkFile h⟩
  | directoryStructure d =>
    obtain ⟨dir, hdir, h⟩ := List.mem_flatMap.mp h
    exact ⟨dir, .inr ⟨_, hdir⟩, DirectoryStructure.makes_of_mem_checkDir h⟩
  | unsupported kind => cases h

/-- No kind of rules has the code of rules that do not compile. -/
theorem misconfiguredCode_notMem_codes (kind : RuleKind) :
    ConfiguredRule.misconfiguredCode ∉ kind.codes := by
  have hlisted : ∀ info ∈ RuleKindInfo.all, ConfiguredRule.misconfiguredCode ∉ info.codes := by
    decide
  unfold codes
  cases h : RuleKindInfo.find? kind.name with
  | none => simp
  | some info => exact hlisted info (List.mem_of_find?_eq_some h)

end RuleKind
end TreeLint
