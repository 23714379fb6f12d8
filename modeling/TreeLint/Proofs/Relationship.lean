import TreeLint.Check.Relationship
import TreeLint.Proofs.SelectedFiles
import TreeLint.Rule.Compile

/-!
What it means that a rule about companions finds nothing. Each file that the rule looks at then has
every companion that it needs, as far as the templates lead to a path below the root, and has none
that it must not have.
-/
namespace TreeLint.Relationship

/-- The companions of a file are as the rule asks. No file is its own forbidden companion. -/
structure Holds (r : Relationship) (t : Tree) (file : ProjectPath) : Prop where
  required : ∀ template ∈ r.requires, ∀ companion,
    template.expand? file = some companion → t.isFile companion = true
  forbidden : ∀ template ∈ r.forbids, ∀ companion,
    template.expand? file = some companion → companion ≠ file → t.isFile companion = false

section Templates

variable {s : Scope} {file : ProjectPath} {template : PathTemplate}

theorem checkRequired_eq_none_iff :
    checkRequired s file template = none ↔
      ∀ companion, template.expand? file = some companion → s.view.isFile companion = true := by
  unfold checkRequired
  cases template.expand? file with
  | none => simp
  | some companion => cases h : s.view.isFile companion <;> simp [h]

theorem checkForbidden_eq_none_iff :
    checkForbidden s file template = none ↔
      ∀ companion, template.expand? file = some companion → companion ≠ file →
        s.view.isFile companion = false := by
  unfold checkForbidden
  cases template.expand? file with
  | none => simp
  | some companion => cases h : s.view.isFile companion <;> simp [h]

/-- A template expands unless its text climbs above the root or leads to the root itself. -/
theorem exists_expand?_iff :
    (∃ companion, template.expand? file = some companion) ↔
      ∃ companion, ProjectPath.normalize? (template.fill file) = some companion ∧
        companion ≠ .root := by
  simp [PathTemplate.expand?, Option.filter_eq_some_iff, ← Bool.not_eq_true, ProjectPath.isRoot_iff]

end Templates

theorem checkFile_eq_nil_iff {r : Relationship} {s : Scope} {t : Tree} (hview : s.view = t.view)
    (file : ProjectPath) : r.checkFile s file = [] ↔ r.Holds t file := by
  simp only [checkFile, List.append_eq_nil_iff, List.filterMap_eq_nil_iff,
    checkRequired_eq_none_iff, checkForbidden_eq_none_iff, hview]
  exact ⟨fun ⟨hrequired, hforbidden⟩ => ⟨hrequired, hforbidden⟩,
    fun h => ⟨h.required, h.forbidden⟩⟩

/-- Nothing is found exactly where all companions of each selected file are as the rule asks. Then
each required template leads to a file exactly where each of them leads to a path below the root: a
template that leads above the root, or to the root itself, asks for nothing. -/
theorem check_eq_nil_iff_holds (entries : List (String × String)) (r : Relationship) {s : Scope}
    (hview : s.view = (Tree.ofList entries).view) :
    (r.check s = [] ↔ ∀ file, (Tree.ofList entries).Selects r.files s.ignore file →
      r.Holds (Tree.ofList entries) file) ∧
    (r.check s = [] →
      ((∀ file, (Tree.ofList entries).Selects r.files s.ignore file → ∀ template ∈ r.requires,
          ∃ companion, template.expand? file = some companion ∧
            (Tree.ofList entries).isFile companion) ↔
        ∀ file, (Tree.ofList entries).Selects r.files s.ignore file → ∀ template ∈ r.requires,
          ∃ companion, ProjectPath.normalize? (template.fill file) = some companion ∧
            companion ≠ .root)) := by
  have hcheck : r.check s = [] ↔ ∀ file, (Tree.ofList entries).Selects r.files s.ignore file →
      r.Holds (Tree.ofList entries) file := by
    simp only [check, List.flatMap_eq_nil_iff, checkFile_eq_nil_iff hview,
      Scope.mem_filesOf (Tree.wellFormed_ofList entries) hview]
  refine ⟨hcheck, fun hclean => ?_⟩
  refine forall₂_congr fun file hfile => forall₂_congr fun template htemplate => ?_
  rw [← exists_expand?_iff]
  refine exists_congr fun companion => and_iff_left_of_imp fun hcompanion => ?_
  exact ((hcheck.mp hclean) file hfile).required template htemplate companion hcompanion

/-- Every source file has a test and no twin in another language. -/
def tested : Relationship where
  files :=
    ⟨"src/*.ts",
      [.literal "src", .wildcard ⟨"*.ts", [.anyText, .char '.', .char 't', .char 's']⟩]⟩
  requires := [⟨"tests/\x7bstem\x7d.test.ts",
    [.text "tests/", .hole .stem, .text ".test.ts"]⟩]
  forbids := [⟨"\x7bdir\x7d/\x7bstem\x7d.js", [.hole .dir, .text "/", .hole .stem, .text ".js"]⟩]

def testedProject : List (String × String) :=
  [("src/a.ts", ""), ("src/b.view.ts", ""), ("tests/a.test.ts", ""), ("tests/b.test.ts", ""),
    ("lib/a.js", "")]

def testedScope : Scope := ⟨"tests", .error, none, (Tree.ofList testedProject).view, .empty, []⟩

theorem check_eq_nil_iff_holds_tested :
    testedScope.view = (Tree.ofList testedProject).view ∧ tested.check testedScope = [] ∧
    (Tree.ofList testedProject).Selects tested.files testedScope.ignore ⟨"src/b.view.ts"⟩ ∧
    tested.Holds (Tree.ofList testedProject) ⟨"src/b.view.ts"⟩ := by
  have hclean : tested.check testedScope = [] := by decide +kernel
  have hselects : (Tree.ofList testedProject).Selects tested.files testedScope.ignore
      ⟨"src/b.view.ts"⟩ := by
    decide +kernel
  exact ⟨rfl, hclean, hselects,
    (check_eq_nil_iff_holds testedProject tested (s := testedScope) rfl).1.mp hclean _ hselects⟩

attribute [local instance] Explanations.brief

/-- A rule that asks for a test in a directory beside that of the source file. -/
def besideRule : RuleDocument where
  id := "tests"
  kind := "relationship"
  options :=
    [("files", .string "**/*.ts"),
      ("requires", .strings ["\x7bdir\x7d/../tests/\x7bname\x7d"])]

def beside : Relationship where
  files :=
    ⟨"**/*.ts", [.recursive, .wildcard ⟨"*.ts", [.anyText, .char '.', .char 't', .char 's']⟩]⟩
  requires := [⟨"\x7bdir\x7d/../tests/\x7bname\x7d",
    [.hole .dir, .text "/../tests/", .hole .name]⟩]
  forbids := []

def besideScope : Scope := ⟨"tests", .error, none, (Tree.ofList [("a.ts", "")]).view, .empty, []⟩

/-- Nothing is beside the root, and nothing is found of a file that stands there without a test. -/
theorem check_passes_climbing_template :
    RuleSpec.compile besideRule = .ok ⟨"tests", .error, .empty, none, .relationship beside⟩ ∧
    beside.check besideScope = [] ∧
    (Tree.ofList [("a.ts", "")]).Selects beside.files besideScope.ignore ⟨"a.ts"⟩ ∧
    ∃ template ∈ beside.requires, ¬∃ companion, template.expand? ⟨"a.ts"⟩ = some companion ∧
      (Tree.ofList [("a.ts", "")]).isFile companion := by
  have hexpand : (PathTemplate.mk "\x7bdir\x7d/../tests/\x7bname\x7d"
      [.hole .dir, .text "/../tests/", .hole .name]).expand? ⟨"a.ts"⟩ = none := by
    decide +kernel
  refine ⟨rfl, by decide +kernel, by decide +kernel, _, List.mem_singleton_self _, ?_⟩
  rintro ⟨companion, hcompanion, -⟩
  rw [hexpand] at hcompanion
  cases hcompanion

end TreeLint.Relationship
