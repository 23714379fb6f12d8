import TreeLint.Proofs.Run
import TreeLint.Proofs.Selection

/-!
Giving a file another text. Which files there are, which of them a rule looks at and where imports
lead does not depend on any text, and the text of a file is read for the findings in that file only.
-/
namespace TreeLint

namespace FileView

/-- The same files, one of them with another text. -/
def withText (view : FileView) (file : ProjectPath) (text : String) : FileView :=
  { view with text? := fun p => if p = file then some text else view.text? p }

variable (view : FileView) (file : ProjectPath) (text : String)

theorem withText_agreesOpen (ignore : IgnoreSet) :
    AgreesOpen ignore (view.withText file text) view :=
  ⟨rfl, fun _ _ => rfl⟩

theorem matchFiles_withText (p : Pattern) (ignore : IgnoreSet) :
    (view.withText file text).matchFiles p ignore = view.matchFiles p ignore :=
  matchFiles_congr (view.withText_agreesOpen file text ignore) p

theorem matchDirs_withText (p : Pattern) (ignore : IgnoreSet) :
    (view.withText file text).matchDirs p ignore = view.matchDirs p ignore :=
  matchDirs_congr (view.withText_agreesOpen file text ignore) p

theorem moduleRoots_withText (p : Pattern) (ignore : IgnoreSet) :
    (view.withText file text).moduleRoots p ignore = view.moduleRoots p ignore := by
  rw [moduleRoots, moduleRoots, matchFiles_withText, matchDirs_withText]

theorem resolve_withText :
    Import.resolve (view.withText file text) = Import.resolve view := by
  have hisFile : (view.withText file text).isFile = view.isFile := rfl
  funext specifier source
  rw [Import.resolve, Import.resolve, hisFile]

end FileView

namespace Tree

/-- Trees with the same paths differ in their texts only. -/
theorem view_congr {t u : Tree} (hpaths : t.paths = u.paths) (hdirs : t.dirs = u.dirs) :
    t.view = { u.view with text? := t.text? } := by
  have hisDir : t.isDir = u.isDir := by
    funext d
    rw [isDir, isDir, hdirs]
  have hisFile : t.isFile = u.isFile := by
    funext p
    rw [Bool.eq_iff_iff, isFile_iff, isFile_iff, hpaths]
  have hlisting : t.listing = u.listing := by
    rw [listing, listing, hisDir, hdirs, ← paths, ← paths, hpaths]
  have hdepth : t.depth = u.depth := by
    have hlengths (t : Tree) : t.depth = (t.paths.map (·.segments.length)).foldr max 0 := by
      rw [depth, paths, List.map_map]
      rfl
    rw [hlengths, hlengths, hpaths]
  rw [view, view, hisDir, hisFile, hlisting, hdepth]

/-- Putting in a file that is there already changes its text and nothing else. -/
theorem WellFormed.view_insert {t : Tree} (ht : t.WellFormed) {raw : String} {f : ProjectPath}
    (hraw : ProjectPath.normalize? raw = some f) (hfile : t.isFile f = true) (text : String) :
    (t.insert raw text).view = t.view.withText f text := by
  have hpaths : (t.insert raw text).paths = t.paths := by
    refine (ht.insert raw text).files_sorted.eq_of_mem_iff ht.files_sorted fun p => ?_
    rw [paths_insert hraw, Ascending.mem_insert, or_iff_right_of_imp]
    rintro rfl
    exact (isFile_iff t p).mp hfile
  have hdirs : (t.insert raw text).dirs = t.dirs := by
    refine (ht.insert raw text).dirs_sorted.eq_of_mem_iff ht.dirs_sorted fun d => ?_
    rw [(ht.insert raw text).mem_dirs, ht.mem_dirs, hpaths]
  rw [view_congr hpaths hdirs, funext (text?_insert hraw)]
  rfl

end Tree

/-- Findings that differ in one file only, and not at all where that file is ignored. -/
structure ChangedIn (file : ProjectPath) (ignore : IgnoreSet) (before after : List Violation) :
    Prop where
  elsewhere : after.filter (·.location.file ≠ file) = before.filter (·.location.file ≠ file)
  ignored : ignore.isIgnored file = true → after = before

namespace ChangedIn

variable {file : ProjectPath} {ignore : IgnoreSet}

theorem of_eq {before after : List Violation} (h : after = before) :
    ChangedIn file ignore before after :=
  ⟨congrArg _ h, fun _ => h⟩

theorem append {before after before' after' : List Violation}
    (h : ChangedIn file ignore before after) (h' : ChangedIn file ignore before' after') :
    ChangedIn file ignore (before ++ before') (after ++ after') where
  elsewhere := by rw [List.filter_append, List.filter_append, h.elsewhere, h'.elsewhere]
  ignored hfile := by rw [h.ignored hfile, h'.ignored hfile]

theorem flatMap {α : Type} {xs : List α} {f g : α → List Violation}
    (h : ∀ x ∈ xs, ChangedIn file ignore (f x) (g x)) :
    ChangedIn file ignore (xs.flatMap f) (xs.flatMap g) where
  elsewhere := by
    rw [List.filter_flatMap, List.filter_flatMap]
    exact List.flatMap_congr fun x hx => (h x hx).elsewhere
  ignored hfile := List.flatMap_congr fun x hx => (h x hx).ignored hfile

/-- The places that findings are made in, of which one may have others than before. -/
theorem flatMap_places {places : List ProjectPath} {f g : ProjectPath → List Violation}
    (hplaces : ∀ x ∈ places, ignore.isIgnored x = false) (hsame : ∀ x, x ≠ file → g x = f x)
    (hf : ∀ x, ∀ v ∈ f x, v.location.file = x) (hg : ∀ x, ∀ v ∈ g x, v.location.file = x) :
    ChangedIn file ignore (places.flatMap f) (places.flatMap g) := by
  refine flatMap fun x hx => ?_
  by_cases hfile : x = file
  · subst hfile
    refine ⟨?_, fun hignored => absurd hignored (by simp [hplaces x hx])⟩
    have hbefore : (f x).filter (·.location.file ≠ x) = [] :=
      List.filter_eq_nil_iff.mpr fun v hv => by simp [hf x v hv]
    have hafter : (g x).filter (·.location.file ≠ x) = [] :=
      List.filter_eq_nil_iff.mpr fun v hv => by simp [hg x v hv]
    rw [hbefore, hafter]
  · exact of_eq (hsame x hfile)

end ChangedIn

namespace Scope

/-- A scope in which a file has another text. -/
def withText (s : Scope) (file : ProjectPath) (text : String) : Scope :=
  { s with view := s.view.withText file text }

variable (s : Scope) (file : ProjectPath) (text : String)

theorem filesOf_withText (p : Pattern) : (s.withText file text).filesOf p = s.filesOf p :=
  s.view.matchFiles_withText file text p s.ignore

theorem dirsOf_withText (p : Pattern) : (s.withText file text).dirsOf p = s.dirsOf p :=
  s.view.matchDirs_withText file text p s.ignore

theorem select_withText (p : Option Pattern) : (s.withText file text).select p = s.select p := by
  cases p with
  | some p => exact s.filesOf_withText file text p
  | none =>
    have hincluded : (s.withText file text).included = s.included := rfl
    rw [select, select, hincluded, funext (s.filesOf_withText file text)]

theorem inText_withText {x : ProjectPath} (h : x ≠ file) (f : String → List Violation) :
    (s.withText file text).inText x f = s.inText x f := by
  simp only [inText, withText, FileView.withText, if_neg h]

end Scope

section Checks

variable (s : Scope) (file : ProjectPath) (text : String)

theorem Relationship.check_withText (r : Relationship) :
    r.check (s.withText file text) = r.check s := by
  rw [check, check, Scope.filesOf_withText]
  rfl

theorem DirectoryStructure.check_withText (d : DirectoryStructure) :
    d.check (s.withText file text) = d.check s := by
  rw [check, check, Scope.dirsOf_withText]
  rfl

theorem FileContent.check_withText (c : FileContent) :
    ChangedIn file s.ignore (c.check s) (c.check (s.withText file text)) := by
  rw [check, check, Scope.filesOf_withText]
  exact .flatMap_places (fun x hx => Scope.not_ignored_of_mem_filesOf hx)
    (fun x hx => s.inText_withText file text hx _)
    (fun x v hv => (makes_of_mem_checkFile hv).place)
    (fun x v hv => (makes_of_mem_checkFile hv).place)

theorem ForbiddenImport.checkEdge_withText (f : ForbiddenImport) (x : ProjectPath) :
    f.checkEdge (s.withText file text) x = f.checkEdge s x := by
  funext edge
  rw [checkEdge, checkEdge, reason?, reason?, Scope.withText, FileView.resolve_withText]
  rfl

theorem ForbiddenImport.check_withText (f : ForbiddenImport) :
    ChangedIn file s.ignore (f.check s) (f.check (s.withText file text)) := by
  rw [check, check, Scope.filesOf_withText]
  refine .flatMap_places (fun x hx => Scope.not_ignored_of_mem_filesOf hx) (fun x hx => ?_)
    (fun x v hv => (makes_of_mem_checkFile hv).place)
    (fun x v hv => (makes_of_mem_checkFile hv).place)
  rw [checkFile, checkFile, s.inText_withText file text hx, checkEdge_withText]

theorem PublicApi.checkEdge_withText (api : PublicApi) (roots : List ProjectPath)
    (x : ProjectPath) : api.checkEdge (s.withText file text) roots x = api.checkEdge s roots x := by
  funext edge
  rw [checkEdge, checkEdge, Scope.withText, FileView.resolve_withText]
  rfl

theorem PublicApi.check_withText (api : PublicApi) :
    ChangedIn file s.ignore (api.check s) (api.check (s.withText file text)) := by
  have hroots : (s.withText file text).view.moduleRoots api.modules (s.withText file text).ignore =
      s.view.moduleRoots api.modules s.ignore :=
    s.view.moduleRoots_withText file text api.modules s.ignore
  rw [check, check, Scope.select_withText, hroots]
  refine .flatMap_places (fun x hx => Scope.not_ignored_of_mem_select hx) (fun x hx => ?_)
    (fun x v hv => (makes_of_mem_checkFile hv).place)
    (fun x v hv => (makes_of_mem_checkFile hv).place)
  rw [checkFile, checkFile, s.inText_withText file text hx, checkEdge_withText]

theorem ImportBoundary.checkEdge_withText (b : ImportBoundary) (layers : List LayerFiles)
    (layer : Layer) (x : ProjectPath) :
    b.checkEdge (s.withText file text) layers layer x = b.checkEdge s layers layer x := by
  funext edge
  rw [checkEdge, checkEdge, Scope.withText, FileView.resolve_withText]
  rfl

theorem ImportBoundary.check_withText (b : ImportBoundary) :
    ChangedIn file s.ignore (b.check s) (b.check (s.withText file text)) := by
  have hlayers : b.layerFiles (s.withText file text) = b.layerFiles s :=
    List.map_congr_left fun l _ => by rw [Scope.filesOf_withText]
  simp only [check, hlayers]
  -- overlaps are found without reading any text
  refine (ChangedIn.of_eq rfl).append (.flatMap_places (fun x hx => not_ignored_of_mem_all hx)
    (fun x hx => ?_) (fun x v hv => (makes_of_mem_checkFile hv).place)
    (fun x v hv => (makes_of_mem_checkFile hv).place))
  unfold checkFile
  cases LayerFiles.owner? (b.layerFiles s) x with
  | none => rfl
  | some layer => simp only [s.inText_withText file text hx, checkEdge_withText]

end Checks

theorem RuleKind.check_withText (kind : RuleKind) (s : Scope) (file : ProjectPath) (text : String) :
    ChangedIn file s.ignore (kind.check s) (kind.check (s.withText file text)) := by
  cases kind with
  | importBoundary b => exact b.check_withText s file text
  | publicApi api => exact api.check_withText s file text
  | relationship r => exact .of_eq (r.check_withText s file text)
  | forbiddenImport f => exact f.check_withText s file text
  | fileContent c => exact c.check_withText s file text
  | directoryStructure d => exact .of_eq (d.check_withText s file text)
  | unsupported kind => exact .of_eq rfl

namespace Configuration

theorem findings_withText (c : Configuration) (view : FileView) (file : ProjectPath)
    (text : String) :
    ChangedIn file c.ignore (c.findings view) (c.findings (view.withText file text)) := by
  refine .flatMap fun r _ => ?_
  cases h : r.compiled with
  | error e =>
    rw [ConfiguredRule.findings_of_error c _ h, ConfiguredRule.findings_of_error c _ h]
    exact .of_eq rfl
  | ok spec =>
    rw [ConfiguredRule.findings_of_ok c _ h, ConfiguredRule.findings_of_ok c _ h]
    have hcheck := spec.kind.check_withText (spec.scope c view) file text
    refine ⟨hcheck.elsewhere, fun hignored => hcheck.ignored ?_⟩
    rw [RuleSpec.scope, IgnoreSet.isIgnored_union, hignored, Bool.true_or]

/-- Another text in a file of a tree changes nothing in a report but the findings in that file. Where
the file is ignored nothing changes at all. -/
theorem run_insert_local (c : Configuration) (entries : List (String × String)) {raw : String}
    {f : ProjectPath} (text : String) (hraw : ProjectPath.normalize? raw = some f)
    (hfile : (Tree.ofList entries).isFile f = true) :
    let before := c.run (Tree.ofList entries).view
    let after := c.run ((Tree.ofList entries).insert raw text).view
    after.rulesRun = before.rulesRun ∧ after.skipped = before.skipped ∧
    after.violations.filter (·.location.file ≠ f) =
      before.violations.filter (·.location.file ≠ f) ∧
    (c.ignore.isIgnored f = true → after = before) := by
  intro before after
  have hview := (Tree.wellFormed_ofList entries).view_insert hraw hfile text
  have hchanged := c.findings_withText (Tree.ofList entries).view f text
  rw [← hview] at hchanged
  refine ⟨?_, ?_, ?_, fun hignored => ?_⟩
  · rw [rulesRun_run, rulesRun_run]
  · rw [skipped_run, skipped_run]
  · rw [violations_run, violations_run, Report.filter_sorted, Report.filter_sorted,
      hchanged.elsewhere]
  · change c.run _ = c.run _
    rw [run_eq, run_eq, hchanged.ignored hignored]

/-- Each file has to mention that it is free, but in a directory that is ignored. -/
def licensed : Configuration where
  version := 1
  included := []
  excluded := []
  ignore := ⟨[], [⟨"gen"⟩]⟩
  tools := []
  integrations := []
  rules := [⟨{ id := "license" }, "", none, .ok ⟨"license", .error, .empty, none,
    .fileContent ⟨⟨"**", [.recursive]⟩, some ⟨"free", (Regex.literal "free".toList).matcher⟩,
      none⟩⟩⟩]
  source := .defaults
  presets := []

def unlicensed : Tree := .ofList [("a.ts", ""), ("b.ts", ""), ("gen/c.ts", "")]

theorem run_insert_local_license :
    ProjectPath.normalize? "./b.ts" = some ⟨"b.ts"⟩ ∧ unlicensed.isFile ⟨"b.ts"⟩ = true ∧
    ProjectPath.normalize? "gen/c.ts" = some ⟨"gen/c.ts"⟩ ∧
    unlicensed.isFile ⟨"gen/c.ts"⟩ = true ∧ licensed.ignore.isIgnored ⟨"gen/c.ts"⟩ = true ∧
    (licensed.run unlicensed.view).violations.map (·.location.file) = [⟨"a.ts"⟩, ⟨"b.ts"⟩] ∧
    (licensed.run (unlicensed.insert "./b.ts" "free").view).violations =
      (licensed.run unlicensed.view).violations.filter (·.location.file ≠ ⟨"b.ts"⟩) ∧
    licensed.run (unlicensed.insert "gen/c.ts" "free").view = licensed.run unlicensed.view := by
  have hb : ProjectPath.normalize? "./b.ts" = some ⟨"b.ts"⟩ := by decide
  have hbfile : unlicensed.isFile ⟨"b.ts"⟩ = true := by decide
  have hc : ProjectPath.normalize? "gen/c.ts" = some ⟨"gen/c.ts"⟩ := by decide
  have hcfile : unlicensed.isFile ⟨"gen/c.ts"⟩ = true := by decide
  have hignored : licensed.ignore.isIgnored ⟨"gen/c.ts"⟩ = true := by decide
  refine ⟨hb, hbfile, hc, hcfile, hignored, ?_, ?_, ?_⟩
  · rw [violations_run, Report.sorted_eq_self (by decide)]
    decide
  · obtain ⟨-, -, helsewhere, -⟩ := run_insert_local licensed _ "free" hb hbfile
    rw [← unlicensed] at helsewhere
    rw [← helsewhere, violations_run, Report.sorted_eq_self (by decide)]
    decide
  · exact (run_insert_local licensed _ "free" hc hcfile).2.2.2 hignored

end Configuration
end TreeLint
