import TreeLint.Proofs.Exclusion
import TreeLint.Proofs.Layers

/-!
What is told of modules that are imported past their public API. An import is told of where it leads
into a module, unless the importing file belongs to the same module and that is allowed, or one of
the two files is an entry of the module. Nothing else is told.
-/
namespace TreeLint.PublicApi

section Meaning

variable (api : PublicApi) (s : Scope)

/-- The patterns whose files are looked at. -/
def patterns : List Pattern := api.files.elim s.included fun p => [p]

/-- A file that is looked at. -/
def Selects (file : ProjectPath) : Prop := ∃ p ∈ api.patterns s, file ∈ s.filesOf p

/-- A path below the directory `root`. -/
def Inside (root path : ProjectPath) : Prop := path.startsWith root = true ∧ path ≠ root

/-- A file right in a module that may be imported from everywhere, and may import everything in the
module. -/
def IsEntry (root file : ProjectPath) : Prop :=
  file.parent = root ∧
    (file.fileName = api.barrel ∨
      ∃ ext ∈ Import.sourceExtensions, file.fileName = "index" ++ ext)

/-- An import leads into a module past its public API. -/
def Trespasses (file : ProjectPath) (edge : Import.Edge) : Prop :=
  ∃ target ∈ (Import.resolve s.view edge.specifier file).file?,
    ∃ root ∈ s.view.moduleRoots api.modules s.ignore, Inside root target ∧
      ¬(api.allowSameModule = true ∧ Inside root file) ∧
      ¬api.IsEntry root target ∧ ¬api.IsEntry root file

instance (file : ProjectPath) : Decidable (api.Selects s file) :=
  inferInstanceAs (Decidable (∃ p ∈ api.patterns s, file ∈ s.filesOf p))

instance (root path : ProjectPath) : Decidable (Inside root path) :=
  inferInstanceAs (Decidable (path.startsWith root = true ∧ path ≠ root))

instance (root file : ProjectPath) : Decidable (api.IsEntry root file) :=
  inferInstanceAs (Decidable (file.parent = root ∧
    (file.fileName = api.barrel ∨
      ∃ ext ∈ Import.sourceExtensions, file.fileName = "index" ++ ext)))

instance (file : ProjectPath) (edge : Import.Edge) : Decidable (api.Trespasses s file edge) :=
  inferInstanceAs (Decidable (∃ target ∈ (Import.resolve s.view edge.specifier file).file?,
    ∃ root ∈ s.view.moduleRoots api.modules s.ignore, Inside root target ∧
      ¬(api.allowSameModule = true ∧ Inside root file) ∧
      ¬api.IsEntry root target ∧ ¬api.IsEntry root file))

/-- The imports in a file that are to be told of, in source order. -/
def trespassesIn (file : ProjectPath) (text : String) : List Import.Edge :=
  (Import.edges text api.extract).filter fun edge =>
    Import.isRelative edge.specifier = true ∧ api.Trespasses s file edge

end Meaning

section Edges

variable {api : PublicApi} {s : Scope}

theorem isBarrel_iff {root file : ProjectPath} :
    api.isBarrel root file = true ↔ api.IsEntry root file := by
  simp [isBarrel, IsEntry]

variable {roots : List ProjectPath} (hroots : Apart roots)
include hroots

theorem moduleOf?_eq_some_iff_inside {path root : ProjectPath} (hpath : path.Canonical) :
    moduleOf? roots path = some root ↔ root ∈ roots ∧ Inside root path := by
  rw [moduleOf?_eq_some_iff hroots hpath, Inside, ne_comm (a := root)]

theorem allows_iff {file root target : ProjectPath} (hfile : file.Canonical)
    (hroot : root ∈ roots) :
    api.allows roots file root target = true ↔
      (api.allowSameModule = true ∧ Inside root file) ∨ api.IsEntry root target ∨
        api.IsEntry root file := by
  simp only [allows, Bool.or_eq_true, Bool.and_eq_true, decide_eq_true_eq, isBarrel_iff,
    moduleOf?_eq_some_iff_inside hroots hfile, hroot, true_and, or_assoc]

end Edges

section Check

variable {t : Tree} (ht : t.WellFormed) {api : PublicApi} {s : Scope} (hview : s.view = t.view)
include ht hview

/-- Since modules are apart, it is the module of the target that an import may trespass on. -/
theorem trespasses_iff {file target : ProjectPath} {edge : Import.Edge} (hfile : file.Canonical)
    (htarget : (Import.resolve s.view edge.specifier file).file? = some target) :
    api.Trespasses s file edge ↔
      ∃ root ∈ moduleOf? (s.view.moduleRoots api.modules s.ignore) target,
        api.allows (s.view.moduleRoots api.modules s.ignore) file root target = false := by
  have hroots : Apart (s.view.moduleRoots api.modules s.ignore) := by
    rw [hview]
    exact moduleRoots_apart ht api.modules s.ignore
  have hcanonical : target.Canonical := by
    have hexists := Import.isFile_of_resolve htarget
    rw [hview] at hexists
    exact ht.canonical_of_isFile hexists
  have hallows {root : ProjectPath} (hmem : root ∈ s.view.moduleRoots api.modules s.ignore) :
      api.allows (s.view.moduleRoots api.modules s.ignore) file root target = false ↔
        ¬(api.allowSameModule = true ∧ Inside root file) ∧ ¬api.IsEntry root target ∧
          ¬api.IsEntry root file := by
    rw [← Bool.not_eq_true, allows_iff hroots hfile hmem, not_or, not_or]
  simp only [Trespasses, htarget, Option.mem_def, Option.some.injEq, exists_eq_left']
  refine exists_congr fun root => ?_
  rw [moduleOf?_eq_some_iff_inside hroots hcanonical, and_assoc]
  refine and_congr_right fun hmem => and_congr_right fun _ => ?_
  rw [hallows hmem]

theorem map_mark_checkEdge {file : ProjectPath} (hfile : file.Canonical) (edge : Import.Edge) :
    (api.checkEdge s (s.view.moduleRoots api.modules s.ignore) file edge).map Violation.mark =
      if Import.isRelative edge.specifier = true ∧ api.Trespasses s file edge then
        some ("API001", s.severity, .onLine file edge.line)
      else none := by
  rw [checkEdge]
  cases htarget : (Import.resolve s.view edge.specifier file).file? with
  | none => simp [Trespasses, htarget]
  | some target =>
    simp only [Import.isRelative_of_resolve htarget, true_and, trespasses_iff ht hview hfile htarget]
    cases hroot : moduleOf? (s.view.moduleRoots api.modules s.ignore) target with
    | none => simp [hroot]
    | some root =>
      cases hallows : api.allows (s.view.moduleRoots api.modules s.ignore) file root target with
      | true => simp [hroot, hallows]
      | false =>
        simp [hroot, hallows, Violation.mark, Scope.violation, Scope.violationAt, code]

/-- What is told of a file is told of the imports that trespass. -/
theorem map_mark_checkFile {file : ProjectPath} {text : String} (hfile : file.Canonical)
    (htext : s.view.text? file = some text) :
    (api.checkFile s (s.view.moduleRoots api.modules s.ignore) file).map Violation.mark =
      (api.trespassesIn s file text).map fun edge =>
        ("API001", s.severity, .onLine file edge.line) := by
  simp only [checkFile, Scope.inText, htext, List.map_filterMap, map_mark_checkEdge ht hview hfile]
  rw [trespassesIn, ← List.filterMap_eq_map, List.filterMap_filter]
  refine List.filterMap_congr fun edge _ => ?_
  simp

theorem selects_iff (file : ProjectPath) :
    api.Selects s file ↔ t.isFile file = true ∧ t.isDir file = false ∧
      s.ignore.isIgnored file = false ∧
        ∃ p ∈ api.patterns s, p.isMatch (if p.endsRecursive then file.parent else file) = true := by
  simp only [Selects, Scope.filesOf, hview, FileView.mem_matchFiles ht]
  constructor
  · rintro ⟨p, hp, hisFile, hisDir, hkept, hmatch⟩
    exact ⟨hisFile, hisDir, hkept, p, hp, hmatch⟩
  · rintro ⟨hisFile, hisDir, hkept, p, hp, hmatch⟩
    exact ⟨p, hp, hisFile, hisDir, hkept, hmatch⟩

/-- The files that are looked at are some files of the tree, in their order. -/
theorem select_eq : s.select api.files = t.paths.filter (api.Selects s ·) := by
  have hsorted : (s.select api.files).Pairwise (· < ·) := by
    cases api.files with
    | some p => exact FileView.matchFiles_sorted _ p _
    | none => exact Ascending.ofList_sorted _
  have hmem (f : ProjectPath) : f ∈ s.select api.files ↔ api.Selects s f := by
    unfold Selects patterns
    cases api.files with
    | some p => simp [Scope.select]
    | none => simp [Scope.select, Ascending.mem_ofList]
  refine hsorted.eq_of_mem_iff (ht.files_sorted.filter _) fun f => ?_
  rw [hmem, List.mem_filter, decide_eq_true_eq, iff_and_self, selects_iff ht hview]
  exact fun h => (t.isFile_iff f).mp h.1

theorem map_mark_check :
    (api.check s).map Violation.mark =
      (t.files.filter fun entry => api.Selects s entry.1).flatMap fun entry =>
        (api.trespassesIn s entry.1 entry.2).map fun edge =>
          ("API001", s.severity, .onLine entry.1 edge.line) := by
  rw [check, select_eq ht hview, Tree.paths_filter, List.map_flatMap, List.flatMap_map]
  refine List.flatMap_congr fun entry hentry => ?_
  have hmem := List.mem_of_mem_filter hentry
  refine map_mark_checkFile ht hview (ht.canonical _ (List.mem_map_of_mem hmem)) ?_
  rw [hview]
  exact ht.text?_of_mem hmem

end Check

/-- Findings are made of exactly those imports that trespass, once of each, file by file and in
source order. The files that are looked at are those that one of the patterns selects and that are not
ignored, in ascending order. -/
theorem check_trespasses (entries : List (String × String)) (api : PublicApi) {s : Scope}
    (hview : s.view = (Tree.ofList entries).view) :
    (api.check s).map Violation.mark =
      ((Tree.ofList entries).files.filter fun entry => api.Selects s entry.1).flatMap (fun entry =>
        (api.trespassesIn s entry.1 entry.2).map fun edge =>
          ("API001", s.severity, .onLine entry.1 edge.line)) ∧
    (∀ file, api.Selects s file ↔ (Tree.ofList entries).isFile file ∧
      ¬(Tree.ofList entries).isDir file ∧ ¬s.ignore.isIgnored file ∧
        ∃ p ∈ api.patterns s, p.isMatch (if p.endsRecursive then file.parent else file)) ∧
    (Tree.ofList entries).paths.Pairwise (· < ·) ∧
    ∀ entry ∈ (Tree.ofList entries).files,
      ((Import.edges entry.2 api.extract).map (·.line)).Pairwise (· ≤ ·) := by
  have ht := Tree.wellFormed_ofList entries
  refine ⟨map_mark_check ht hview, fun file => ?_, ht.files_sorted,
    fun entry _ => Import.edges_sorted _ _⟩
  rw [selects_iff ht hview, Bool.not_eq_true, Bool.not_eq_true]

/-- A project with one module, of which one file is imported past the public API. -/
def modularProject : List (String × String) :=
  [("src/auth/index.tsx", "export * from './login';"), ("src/auth/login.ts", ""),
    ("src/app.ts", "import './auth';\nimport './auth/login';\nimport 'react';")]

def modularApi : PublicApi where
  modules := ⟨"src/*", [.literal "src", .wildcard ⟨"*", [.anyText]⟩]⟩
  files := some ⟨"src/**", [.literal "src", .recursive]⟩
  barrel := "index.ts"
  allowSameModule := false
  extract := {}

def modularScope : Scope := ⟨"api", .error, none, (Tree.ofList modularProject).view, .empty, []⟩

theorem check_trespasses_modular :
    modularScope.view = (Tree.ofList modularProject).view ∧
    (modularApi.check modularScope).map Violation.mark =
      [("API001", .error, ⟨⟨"src/app.ts"⟩, some 2, none⟩)] := by
  have hfiles : (Tree.ofList modularProject).files.filter
      (fun entry => modularApi.Selects modularScope entry.1) =
      [(⟨"src/app.ts"⟩, "import './auth';\nimport './auth/login';\nimport 'react';"),
        (⟨"src/auth/index.tsx"⟩, "export * from './login';"), (⟨"src/auth/login.ts"⟩, "")] := by
    decide +kernel
  have happ : Import.edges "import './auth';\nimport './auth/login';\nimport 'react';" {} =
      [⟨"./auth", 1, .static⟩, ⟨"./auth/login", 2, .static⟩, ⟨"react", 3, .static⟩] := by
    rw [Import.edges, Import.finds, List.mergeSort_of_pairwise (by decide +kernel)]
    decide +kernel
  have hindex : Import.edges "export * from './login';" {} = [⟨"./login", 1, .static⟩] := by
    rw [Import.edges, Import.finds, List.mergeSort_of_pairwise (by decide +kernel)]
    decide +kernel
  have hlogin : Import.edges "" {} = [] := by
    rw [Import.edges, Import.finds, List.mergeSort_of_pairwise (by decide +kernel)]
    decide +kernel
  refine ⟨rfl, (check_trespasses modularProject modularApi (s := modularScope) rfl).1.trans ?_⟩
  have hextract : modularApi.extract = {} := rfl
  rw [hfiles]
  simp only [List.flatMap_cons, List.flatMap_nil, trespassesIn, hextract, happ, hindex, hlogin]
  decide +kernel

end TreeLint.PublicApi
