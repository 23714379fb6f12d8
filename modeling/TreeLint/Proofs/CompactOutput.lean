import TreeLint.CommandLine.Output
import TreeLint.Proofs.Finds
import TreeLint.Proofs.OneLine
import TreeLint.Proofs.Resolution
import TreeLint.Proofs.Run
import TreeLint.Proofs.SelectedFiles

/-!
The lines of compact output. Findings are joined as they are shown, so that each one has a line of
its own exactly when no rule id and no message among them holds a line break. Of what messages are
put together from, paths and the modules named in imports never bring one in; the texts that rules
are written with may, and what is said of an expression that does not compile.
-/
namespace TreeLint

theorem Import.oneLine_specifier {source : String} {o : Import.Options} {e : Import.Edge}
    (h : e ∈ Import.edges source o) : OneLine e.specifier := by
  obtain ⟨start, hfound, -⟩ := Import.mem_edges.mp h
  obtain ⟨⟨k, hfound⟩, -⟩ := Import.mem_finds.mp hfound
  exact (Import.mem_findAll_reader hfound).2.1.no_break

/-- No path of a file holds a line break. -/
def Tree.OneLinePaths (t : Tree) : Prop := ∀ file ∈ t.paths, OneLine file.text

section Paths

variable {t : Tree} (hpaths : t.OneLinePaths)
include hpaths

theorem Tree.OneLinePaths.file {file : ProjectPath} (h : t.isFile file = true) :
    OneLine file.text :=
  hpaths file ((t.isFile_iff file).mp h)

theorem Tree.OneLinePaths.dir (ht : t.WellFormed) {dir : ProjectPath} (h : t.isDir dir = true) :
    OneLine dir.text := by
  obtain ⟨file, k, hfile, rfl⟩ := (ht.isDir_iff_above dir).mp h
  have habove (n : ℕ) : OneLine (ProjectPath.parent^[n] file).text := by
    induction n with
    | zero => exact hpaths.file hfile
    | succ n ih =>
      rw [Function.iterate_succ_apply']
      exact ProjectPath.oneLine_parent ih
  exact habove (k + 1)

theorem Scope.oneLine_of_looksAt (ht : t.WellFormed) {s : Scope} (hview : s.view = t.view)
    {place : ProjectPath} (h : s.LooksAt place) : OneLine place.text := by
  rcases h with ⟨p, h⟩ | ⟨p, h⟩
  · exact hpaths.file ((Scope.mem_filesOf ht hview p place).mp h).1
  · rw [Scope.dirsOf, hview] at h
    exact hpaths.dir ht ((FileView.mem_matchDirs ht p place).mp h).1

end Paths

namespace Violation

theorem oneLine_location_display {l : Location} (h : OneLine l.file.text) :
    OneLine l.display := by
  have hfile := ProjectPath.oneLine_display h
  unfold Location.display
  split
  · exact hfile
  · exact (hfile.append (.literal (by decide))).append (oneLine_toString _)
  · exact ((hfile.append (.literal (by decide))).extend (oneLine_toString _) (by decide)).append
      (oneLine_toString _)

theorem oneLine_severity_name (s : Severity) : OneLine s.name := by
  cases s <;> decide

/-- Where place and code are on one line, a finding is as soon as its rule id and message are. -/
theorem oneLine_display_iff {v : Violation} (hplace : OneLine v.location.file.text)
    (hcode : OneLine v.code) : OneLine v.display ↔ OneLine v.ruleId ∧ OneLine v.message := by
  have hlocation := oneLine_location_display hplace
  have hseverity := oneLine_severity_name v.severity
  simp only [display, oneLine_append_iff]
  constructor
  · rintro ⟨⟨⟨⟨⟨-, hrule⟩, -⟩, -⟩, -⟩, hmessage⟩
    exact ⟨hrule, hmessage⟩
  · rintro ⟨hrule, hmessage⟩
    exact ⟨⟨⟨⟨⟨⟨⟨⟨hlocation, by decide⟩, hseverity⟩, by decide⟩, hrule⟩, by decide⟩, hcode⟩,
      by decide⟩, hmessage⟩

/-- A finding has as many lines as its message, where all else is on one line. -/
theorem length_split_display {v : Violation} (hplace : OneLine v.location.file.text)
    (hcode : OneLine v.code) (hrule : OneLine v.ruleId) :
    (Line.split v.display).length = (Line.split v.message).length := by
  have hlocation := oneLine_location_display hplace
  have hseverity := oneLine_severity_name v.severity
  refine Line.length_split_append ?_ v.message
  simp only [oneLine_append_iff]
  exact ⟨⟨⟨⟨⟨⟨⟨hlocation, by decide⟩, hseverity⟩, by decide⟩, hrule⟩, by decide⟩, hcode⟩, by decide⟩

end Violation

/-- An error about an expression has as many lines as what is said of the expression. -/
theorem RuleError.length_split_invalidRegex {id field : String} (hid : OneLine id)
    (hfield : OneLine field) (detail : String) :
    (Line.split (invalidRegex id field detail).message).length = (Line.split detail).length := by
  refine Line.length_split_append ?_ detail
  simp only [oneLine_append_iff]
  exact ⟨⟨⟨⟨by decide, hid⟩, by decide⟩, hfield⟩, by decide⟩

example : (Line.split (RuleError.invalidRegex "api" "must_match"
    "regex parse error:\n    (\n    ^\nerror: unclosed group").message).length = 4 := by
  decide

namespace Scope

/-- The message of a finding that is told by `text`. -/
def told (s : Scope) (text : String) : String :=
  match s.message with
  | some m => s!"{m}: {text}"
  | none => text

theorem oneLine_told {s : Scope} (hmessage : ∀ m ∈ s.message, OneLine m) {text : String}
    (h : OneLine text) : OneLine (s.told text) := by
  unfold told
  cases hsome : s.message with
  | none => exact h
  | some m => exact ((hmessage m hsome).append (.literal (by decide))).append h

end Scope

/-- The names that are shown of a layer. -/
def Layer.shown (l : Layer) : List String := l.name :: l.allowed

theorem oneLine_quotedNames {names : List String} (h : ∀ name ∈ names, OneLine name) :
    OneLine (quotedNames names) := by
  refine (oneLine_intercalate_iff (by decide) _).mpr fun quoted hquoted => ?_
  obtain ⟨name, hname, rfl⟩ := List.mem_map.mp hquoted
  exact (h name hname).between (by decide) (by decide)

theorem Layer.oneLine_permission {l : Layer} (h : ∀ name ∈ l.allowed, OneLine name) :
    OneLine l.permission := by
  unfold permission
  split_ifs
  · exact .literal (by decide)
  · exact OneLine.append (.literal (by decide)) (oneLine_quotedNames h)

section Messages

variable {s : Scope} (hmessage : ∀ m ∈ s.message, OneLine m) {file : ProjectPath} {v : Violation}
include hmessage

theorem DirectoryStructure.oneLine_of_mem_checkDir {d : DirectoryStructure}
    (hshown : ∀ entry ∈ d.required, OneLine entry) (h : v ∈ d.checkDir s file) :
    OneLine v.message := by
  obtain ⟨entry, hentry, h⟩ := List.mem_filterMap.mp h
  obtain ⟨path, -, h⟩ := Option.bind_eq_some_iff.mp h
  split_ifs at h
  rw [← Option.some.inj h]
  exact Scope.oneLine_told hmessage ((hshown entry hentry).between (by decide) (by decide))

theorem FileContent.oneLine_of_mem_checkFile {c : FileContent}
    (hshown : ∀ e ∈ c.mustMatch.toList ++ c.mustNotMatch.toList, OneLine e.text)
    (h : v ∈ c.checkFile s file) : OneLine v.message := by
  obtain ⟨text, -, h⟩ := Scope.mem_inText.mp h
  rcases List.mem_append.mp h with h | h
  · obtain ⟨e, he, h⟩ := Option.bind_eq_some_iff.mp (Option.mem_toList.mp h)
    have hexpr := hshown e (List.mem_append_left _ (Option.mem_toList.mpr he))
    unfold checkRequired at h
    split at h
    · cases h
    · rw [← Option.some.inj h]
      exact Scope.oneLine_told hmessage (hexpr.between (by decide) (by decide))
  · obtain ⟨e, he, h⟩ := Option.bind_eq_some_iff.mp (Option.mem_toList.mp h)
    have hexpr := hshown e (List.mem_append_right _ (Option.mem_toList.mpr he))
    obtain ⟨found, -, rfl⟩ := Option.map_eq_some_iff.mp h
    exact Scope.oneLine_told hmessage (hexpr.between (by decide) (by decide))

theorem ForbiddenImport.oneLine_of_mem_checkFile {f : ForbiddenImport}
    (h : v ∈ f.checkFile s file) : OneLine v.message := by
  obtain ⟨text, -, h⟩ := Scope.mem_inText.mp h
  obtain ⟨edge, hedge, h⟩ := List.mem_filterMap.mp h
  obtain ⟨reason, -, rfl⟩ := Option.map_eq_some_iff.mp h
  exact Scope.oneLine_told hmessage
    ((Import.oneLine_specifier hedge).between (by decide) (by decide))

theorem Relationship.oneLine_of_mem_checkFile {r : Relationship}
    (hshown : ∀ t ∈ r.requires ++ r.forbids, ∀ text ∈ t.literals, OneLine text)
    (hfile : OneLine file.text) (h : v ∈ r.checkFile s file) : OneLine v.message := by
  have hcompanion : ∀ t ∈ r.requires ++ r.forbids, ∀ companion, t.expand? file = some companion →
      OneLine companion.display := fun t ht _ hexpand =>
    ProjectPath.oneLine_display (PathTemplate.oneLine_expand? hfile (hshown t ht) hexpand)
  rcases List.mem_append.mp h with h | h
  · obtain ⟨t, ht, h⟩ := List.mem_filterMap.mp h
    obtain ⟨companion, hexpand, h⟩ := Option.bind_eq_some_iff.mp h
    split_ifs at h
    rw [← Option.some.inj h]
    have hdisplay := hcompanion t (List.mem_append_left _ ht) companion hexpand
    exact Scope.oneLine_told hmessage (hdisplay.between (by decide) (by decide))
  · obtain ⟨t, ht, h⟩ := List.mem_filterMap.mp h
    obtain ⟨companion, hexpand, h⟩ := Option.bind_eq_some_iff.mp h
    split_ifs at h
    rw [← Option.some.inj h]
    have hdisplay := hcompanion t (List.mem_append_right _ ht) companion hexpand
    exact Scope.oneLine_told hmessage (hdisplay.between (by decide) (by decide))

theorem PublicApi.oneLine_of_mem_checkFile {api : PublicApi} {roots : List ProjectPath}
    (hfiles : ∀ target, s.view.isFile target = true → OneLine target.text)
    (h : v ∈ api.checkFile s roots file) : OneLine v.message := by
  obtain ⟨text, -, h⟩ := Scope.mem_inText.mp h
  obtain ⟨edge, hedge, h⟩ := List.mem_filterMap.mp h
  obtain ⟨target, htarget, h⟩ := Option.bind_eq_some_iff.mp h
  obtain ⟨root, hroot, h⟩ := Option.bind_eq_some_iff.mp h
  split_ifs at h
  rw [← Option.some.inj h]
  have hbelow : target.startsWith root = true := by
    have hmem := (List.mem_filter.mp (List.mem_of_getLast? hroot)).2
    exact (Bool.and_eq_true_iff.mp hmem).1
  have hdisplay := ProjectPath.oneLine_display (ProjectPath.oneLine_of_startsWith
    (hfiles target (Import.isFile_of_resolve htarget)) hbelow)
  exact Scope.oneLine_told hmessage
    (((Import.oneLine_specifier hedge).between (by decide) (by decide)).extend hdisplay (by decide))

namespace ImportBoundary

variable {layers : List LayerFiles} (hlayers : ∀ l ∈ layers, ∀ name ∈ l.layer.shown, OneLine name)
include hlayers

omit hmessage in
theorem oneLine_of_mem_claimants {l : Layer} (h : l ∈ LayerFiles.claimants layers file) :
    ∀ name ∈ l.shown, OneLine name := by
  obtain ⟨claimed, hclaimed, rfl⟩ := List.mem_map.mp h
  exact hlayers claimed (List.mem_of_mem_filter hclaimed)

theorem oneLine_of_overlap (h : overlap s layers file = some v) : OneLine v.message := by
  have hnames : ∀ name ∈ (LayerFiles.claimants layers file).map (·.name), OneLine name := by
    intro name hname
    obtain ⟨l, hl, rfl⟩ := List.mem_map.mp hname
    exact oneLine_of_mem_claimants hlayers hl _ List.mem_cons_self
  unfold overlap at h
  split at h
  · next first second rest hclaimants =>
    rw [← Option.some.inj h]
    rw [hclaimants] at hnames
    have hfirst := hnames first List.mem_cons_self
    exact Scope.oneLine_told hmessage
      (((oneLine_quotedNames hnames).between (by decide) (by decide)).extend hfirst (by decide))
  · cases h

theorem oneLine_of_mem_checkFile {b : ImportBoundary} (h : v ∈ b.checkFile s layers file) :
    OneLine v.message := by
  unfold checkFile at h
  split at h
  · cases h
  · next layer howner =>
    obtain ⟨text, -, h⟩ := Scope.mem_inText.mp h
    obtain ⟨edge, hedge, h⟩ := List.mem_filterMap.mp h
    have hspecifier := Import.oneLine_specifier hedge
    have hlayer := oneLine_of_mem_claimants hlayers (List.mem_of_mem_head? howner)
    unfold checkEdge at h
    split at h
    · cases h
    · split_ifs at h
      rw [← Option.some.inj h]
      exact Scope.oneLine_told hmessage (hspecifier.between (by decide) (by decide))
    · split at h
      · cases h
      · next other hother =>
        split_ifs at h
        rw [← Option.some.inj h]
        have hother := oneLine_of_mem_claimants hlayers (List.mem_of_mem_head? hother)
        have hname := hlayer _ List.mem_cons_self
        have hother := hother _ List.mem_cons_self
        have hpermission := layer.oneLine_permission fun name hname =>
          hlayer name (List.mem_cons_of_mem _ hname)
        exact Scope.oneLine_told hmessage
          ((((hname.between (by decide) (by decide)).extend hother (by decide)).extend hspecifier
            (by decide)).append hpermission)

end ImportBoundary

end Messages

namespace RuleKind

/-- The texts of a rule that its findings may show. -/
def shown : RuleKind → List String
  | .importBoundary b => b.layers.flatMap Layer.shown
  | .relationship r => (r.requires ++ r.forbids).flatMap PathTemplate.literals
  | .fileContent c => (c.mustMatch.toList ++ c.mustNotMatch.toList).map (·.text)
  | .directoryStructure d => d.required
  | .publicApi _ | .forbiddenImport _ | .unsupported _ => []

theorem oneLine_of_mem_check {t : Tree} (ht : t.WellFormed) (hpaths : t.OneLinePaths) {s : Scope}
    (hview : s.view = t.view) (hmessage : ∀ m ∈ s.message, OneLine m) {kind : RuleKind}
    (hshown : ∀ text ∈ kind.shown, OneLine text) {v : Violation} (h : v ∈ kind.check s) :
    OneLine v.message := by
  cases kind with
  | importBoundary b =>
    have hlayers : ∀ l ∈ b.layerFiles s, ∀ name ∈ l.layer.shown, OneLine name := by
      intro l hl name hname
      obtain ⟨layer, hlayer, rfl⟩ := List.mem_map.mp hl
      exact hshown name (List.mem_flatMap.mpr ⟨layer, hlayer, hname⟩)
    rcases List.mem_append.mp h with h | h
    · obtain ⟨file, -, h⟩ := List.mem_filterMap.mp h
      exact ImportBoundary.oneLine_of_overlap hmessage hlayers h
    · obtain ⟨file, -, h⟩ := List.mem_flatMap.mp h
      exact ImportBoundary.oneLine_of_mem_checkFile hmessage hlayers h
  | publicApi api =>
    obtain ⟨file, -, h⟩ := List.mem_flatMap.mp h
    refine PublicApi.oneLine_of_mem_checkFile hmessage (fun target htarget => ?_) h
    rw [hview] at htarget
    exact hpaths.file htarget
  | relationship r =>
    obtain ⟨file, hfile, h⟩ := List.mem_flatMap.mp h
    exact Relationship.oneLine_of_mem_checkFile hmessage
      (fun t ht text htext => hshown text (List.mem_flatMap.mpr ⟨t, ht, htext⟩))
      (Scope.oneLine_of_looksAt hpaths ht hview (.inl ⟨_, hfile⟩)) h
  | forbiddenImport f =>
    obtain ⟨file, -, h⟩ := List.mem_flatMap.mp h
    exact ForbiddenImport.oneLine_of_mem_checkFile hmessage h
  | fileContent c =>
    obtain ⟨file, -, h⟩ := List.mem_flatMap.mp h
    exact FileContent.oneLine_of_mem_checkFile hmessage
      (fun e he => hshown e.text (List.mem_map_of_mem he)) h
  | directoryStructure d =>
    obtain ⟨dir, -, h⟩ := List.mem_flatMap.mp h
    exact DirectoryStructure.oneLine_of_mem_checkDir hmessage hshown h
  | unsupported kind => cases h

theorem oneLine_of_mem_codes {kind : RuleKind} {code : String} (h : code ∈ kind.codes) :
    OneLine code := by
  have hlisted : ∀ info ∈ RuleKindInfo.all, ∀ code ∈ info.codes, OneLine code := by
    decide
  unfold codes at h
  cases hinfo : RuleKindInfo.find? kind.name with
  | none => simp [hinfo] at h
  | some info =>
    rw [hinfo] at h
    exact hlisted info (List.mem_of_find?_eq_some hinfo) code h

end RuleKind

namespace ConfiguredRule

/-- The texts that the findings of a rule may show: the id that it reports under, and what is wrong
with it, or its message and what its kind shows. -/
def shown (r : ConfiguredRule) : List String :=
  r.reportId :: match r.compiled with
    | .error e => [e.message]
    | .ok spec => spec.message.toList ++ spec.kind.shown

section Findings

variable {r : ConfiguredRule} {c : Configuration} {t : Tree} (ht : t.WellFormed)
  (hpaths : t.OneLinePaths) {v : Violation} (h : v ∈ r.findings c t.view)
include ht hpaths h

/-- The place and the code of a finding never hold a line break. -/
theorem oneLine_place_code (hfile : ∀ file ∈ r.file, OneLine file.text) :
    OneLine v.location.file.text ∧ OneLine v.code := by
  cases hcompiled : r.compiled with
  | error e =>
    rw [findings_of_error c t.view hcompiled] at h
    obtain rfl := List.mem_singleton.mp h
    have hcode : OneLine misconfiguredCode := by decide
    refine ⟨?_, hcode⟩
    rw [misconfigured]
    cases hfound : r.file with
    | none =>
      have hroot : OneLine ProjectPath.root.text := by decide
      exact hroot
    | some file => exact hfile file hfound
  | ok spec =>
    rw [findings_of_ok c t.view hcompiled] at h
    obtain ⟨place, hplace, hmade⟩ := RuleKind.makes_of_mem_check h
    refine ⟨?_, RuleKind.oneLine_of_mem_codes hmade.code⟩
    rw [hmade.place]
    exact Scope.oneLine_of_looksAt hpaths ht rfl hplace

theorem oneLine_of_shown (hshown : ∀ text ∈ r.shown, OneLine text) :
    OneLine v.ruleId ∧ OneLine v.message := by
  refine ⟨ruleId_of_mem_findings c t.view h ▸ hshown _ List.mem_cons_self, ?_⟩
  replace hshown := fun text htext => hshown text (List.mem_cons_of_mem _ htext)
  cases hcompiled : r.compiled with
  | error e =>
    rw [findings_of_error c t.view hcompiled] at h
    obtain rfl := List.mem_singleton.mp h
    rw [hcompiled] at hshown
    exact hshown _ List.mem_cons_self
  | ok spec =>
    rw [findings_of_ok c t.view hcompiled] at h
    rw [hcompiled] at hshown
    exact RuleKind.oneLine_of_mem_check ht hpaths rfl
      (fun m hm => hshown m (List.mem_append_left _ (Option.mem_toList.mpr hm)))
      (fun text htext => hshown text (List.mem_append_right _ htext)) h

end Findings
end ConfiguredRule

theorem Report.split_renderCompact {report : Report} (h : report.isClean = false) :
    Line.split report.renderCompact =
      (report.violations.map Violation.display).flatMap Line.split := by
  refine Line.split_intercalate fun hnil => ?_
  rw [List.map_eq_nil_iff] at hnil
  rw [isClean, hnil] at h
  cases h

namespace Configuration

theorem exists_rule_of_mem_run {c : Configuration} {view : FileView} {v : Violation}
    (h : v ∈ (c.run view).violations) : ∃ r ∈ c.rules, v ∈ r.findings c view := by
  rw [violations_run] at h
  exact List.mem_flatMap.mp ((Report.sorted_perm _).mem_iff.mp h)

/-- Compact output has the lines of all messages, where no rule id holds a line break. -/
theorem length_split_renderCompact_run (c : Configuration) {t : Tree} (ht : t.WellFormed)
    (hpaths : t.OneLinePaths) (hfiles : ∀ r ∈ c.rules, ∀ file ∈ r.file, OneLine file.text)
    (hids : ∀ v ∈ (c.run t.view).violations, OneLine v.ruleId)
    (hfound : (c.run t.view).isClean = false) :
    (Line.split (c.run t.view).renderCompact).length =
      ((c.run t.view).violations.flatMap fun v => Line.split v.message).length := by
  rw [Report.split_renderCompact hfound, List.length_flatMap, List.length_flatMap, List.map_map]
  refine congrArg List.sum (List.map_congr_left fun v hv => ?_)
  obtain ⟨r, hr, hfinding⟩ := exists_rule_of_mem_run hv
  obtain ⟨hplace, hcode⟩ := ConfiguredRule.oneLine_place_code ht hpaths hfinding (hfiles r hr)
  rw [Function.comp_apply]
  exact Violation.length_split_display hplace hcode (hids v hv)

/-- The lines of compact output are as many as the findings, and each shows one of them, exactly
when no rule id and no message holds a line break; otherwise there are more. No path and no import
brings a line break in, so that it is enough that no rule does. -/
theorem split_renderCompact_run (c : Configuration) (entries : List (String × String))
    (hpaths : (Tree.ofList entries).OneLinePaths)
    (hfiles : ∀ r ∈ c.rules, ∀ file ∈ r.file, OneLine file.text)
    (hfound : (c.run (Tree.ofList entries).view).isClean = false) :
    let report := c.run (Tree.ofList entries).view
    report.violations.length ≤ (Line.split report.renderCompact).length ∧
    ((Line.split report.renderCompact).length = report.violations.length ↔
      ∀ v ∈ report.violations, OneLine v.ruleId ∧ OneLine v.message) ∧
    (Line.split report.renderCompact = report.violations.map Violation.display ↔
      ∀ v ∈ report.violations, OneLine v.ruleId ∧ OneLine v.message) ∧
    ((∀ r ∈ c.rules, ∀ text ∈ r.shown, OneLine text) →
      Line.split report.renderCompact = report.violations.map Violation.display) := by
  intro report
  have ht := Tree.wellFormed_ofList entries
  have hiff : (∀ text ∈ report.violations.map Violation.display, OneLine text) ↔
      ∀ v ∈ report.violations, OneLine v.ruleId ∧ OneLine v.message := by
    rw [List.forall_mem_map]
    refine forall₂_congr fun v hv => ?_
    obtain ⟨r, hr, hv⟩ := exists_rule_of_mem_run hv
    obtain ⟨hplace, hcode⟩ := ConfiguredRule.oneLine_place_code ht hpaths hv (hfiles r hr)
    exact Violation.oneLine_display_iff hplace hcode
  have hlines := Report.split_renderCompact hfound
  have hexact : Line.split report.renderCompact = report.violations.map Violation.display ↔
      ∀ v ∈ report.violations, OneLine v.ruleId ∧ OneLine v.message := by
    rw [hlines, Line.flatMap_split_eq_iff, hiff]
  refine ⟨?_, ?_, hexact, fun hshown => hexact.mpr fun v hv => ?_⟩
  · rw [hlines]
    simpa using Line.length_le_flatMap_split (report.violations.map Violation.display)
  · rw [hlines, ← hiff, ← Line.length_flatMap_split_eq_iff, List.length_map]
  · obtain ⟨r, hr, hv⟩ := exists_rule_of_mem_run hv
    exact ConfiguredRule.oneLine_of_shown ht hpaths hv (hshown r hr)

theorem split_renderCompact_run_layout :
    (Tree.ofList [("src/a.ts", "")]).OneLinePaths ∧
    (∀ r ∈ layout.rules, ∀ file ∈ r.file, OneLine file.text) ∧
    (layout.run (Tree.ofList [("src/a.ts", "")]).view).isClean = false ∧
    Line.split (layout.run (Tree.ofList [("src/a.ts", "")]).view).renderCompact =
      ["src: error [api/DIR001] directory is missing required entry `types`",
        "src: error [layout/DIR001] directory is missing required entry `tests`",
        "src: error [layout/DIR001] directory is missing required entry `docs`"] := by
  have hpaths : (Tree.ofList [("src/a.ts", "")]).OneLinePaths := by
    unfold Tree.OneLinePaths
    decide
  have hfiles : ∀ r ∈ layout.rules, ∀ file ∈ r.file, OneLine file.text := by
    simp [layout, layoutRules]
  have hfound : (layout.run (Tree.ofList [("src/a.ts", "")]).view).isClean = false := by
    rw [Report.isClean, violations_run, Report.sorted_eq_self (by decide)]
    decide
  have hshown : ∀ r ∈ layout.rules, ∀ text ∈ r.shown, OneLine text := by
    decide
  refine ⟨hpaths, hfiles, hfound, ?_⟩
  obtain ⟨-, -, -, hlines⟩ := split_renderCompact_run layout _ hpaths hfiles hfound
  rw [hlines hshown, violations_run, Report.sorted_eq_self (by decide)]
  decide

/-- A rule with a message of two lines. -/
def twoLineMessage : Configuration :=
  ⟨1, [], [], .empty, [], [], [⟨{ id := "api" }, "", none, .ok ⟨"api", .error, .empty,
    some "no types\nsee the guide", .directoryStructure ⟨⟨"src", [.literal "src"]⟩, ["types"]⟩⟩⟩],
    .defaults, []⟩

/-- One finding takes two lines. -/
theorem split_renderCompact_run_twoLineMessage :
    (Tree.ofList [("src/a.ts", "")]).OneLinePaths ∧
    (twoLineMessage.run (Tree.ofList [("src/a.ts", "")]).view).violations.length = 1 ∧
    Line.split (twoLineMessage.run (Tree.ofList [("src/a.ts", "")]).view).renderCompact =
      ["src: error [api/DIR001] no types",
        "see the guide: directory is missing required entry `types`"] := by
  have hpaths : (Tree.ofList [("src/a.ts", "")]).OneLinePaths := by
    unfold Tree.OneLinePaths
    decide
  refine ⟨hpaths, ?_, ?_⟩
  · rw [violations_run, Report.sorted_eq_self (by decide)]
    decide
  · rw [Report.renderCompact, violations_run, Report.sorted_eq_self (by decide)]
    decide

end Configuration
end TreeLint
