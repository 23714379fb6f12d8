import TreeLint.Check.Layers
import TreeLint.Proofs.Compile
import TreeLint.Proofs.Finds
import TreeLint.Proofs.Resolution
import TreeLint.Proofs.Selection

/-!
What the layers of a compiled rule are told. They are told once of each file that several of them
match. They are told of an import where it leads to a layer that the layer of its file does not
allow, or to no file at all. Nothing else is told.
-/
namespace TreeLint

/-- What gives nothing may be left out before. -/
theorem flatMap_filter_of_nil {α β : Type} {p : α → Bool} {f : α → List β}
    (h : ∀ x, p x = false → f x = []) (xs : List α) : (xs.filter p).flatMap f = xs.flatMap f := by
  induction xs with
  | nil => rfl
  | cons x xs ih =>
    cases hx : p x with
    | false => simp [hx, h x hx, ih]
    | true => simp [hx, ih]

theorem Severity.mildest_le_right (a b : Severity) : a.mildest b ≤ b := by
  cases a <;> cases b <;> decide

/-- What a finding is about, without its texts. -/
def Violation.mark (v : Violation) : String × Severity × Location := (v.code, v.severity, v.location)

/-- Two layers with different names are told apart by them. -/
theorem Layer.mayImport_iff {layers : List Layer} (hnames : (layers.map (·.name)).Nodup)
    {own other : Layer} (hown : own ∈ layers) (hother : other ∈ layers) :
    own.mayImport other.name = true ↔ other = own ∨ other.name ∈ own.allowed := by
  have hsame : own.name = other.name ↔ other = own :=
    ⟨fun h => (List.inj_on_of_nodup_map hnames hown hother h).symm, fun h => by rw [h]⟩
  simp [mayImport, hsame]

namespace ImportBoundary

section Meaning

variable (b : ImportBoundary) (s : Scope)

/-- The layers whose patterns select a file, as they are declared. -/
def selecting (file : ProjectPath) : List Layer :=
  b.layers.filter fun l => (s.filesOf l.membership).contains file

/-- The first layer, as they are declared, whose pattern selects a file. -/
def ownerOf? (file : ProjectPath) : Option Layer :=
  b.layers.find? fun l => (s.filesOf l.membership).contains file

/-- An import leads to a file of another layer, which that of the importing file does not allow. -/
def Crosses (own : Layer) (file : ProjectPath) (edge : Import.Edge) : Prop :=
  ∃ target ∈ (Import.resolve s.view edge.specifier file).file?,
    ∃ other ∈ b.ownerOf? s target, other ≠ own ∧ other.name ∉ own.allowed

instance (own : Layer) (file : ProjectPath) (edge : Import.Edge) :
    Decidable (b.Crosses s own file edge) :=
  inferInstanceAs (Decidable (∃ target ∈ (Import.resolve s.view edge.specifier file).file?,
    ∃ other ∈ b.ownerOf? s target, other ≠ own ∧ other.name ∉ own.allowed))

/-- What is to be told of a relative import in a file of the layer `own`. -/
def due? (own : Layer) (file : ProjectPath) (edge : Import.Edge) :
    Option (String × Severity × Location) :=
  if b.Crosses s own file edge then some ("LAYER001", s.severity, .onLine file edge.line)
  else if b.reportUnresolved ∧ (Import.resolve s.view edge.specifier file).file? = none then
    some ("LAYER003", s.severity.mildest .warning, .onLine file edge.line)
  else none

/-- What is to be told of the imports in a file, in source order. -/
def dueIn (file : ProjectPath) (text : String) : List (String × Severity × Location) :=
  match b.ownerOf? s file with
  | none => []
  | some own =>
    ((Import.edges text b.extract).filter (Import.isRelative ·.specifier)).filterMap
      (b.due? s own file)

end Meaning

section Claims

variable {b : ImportBoundary} {s : Scope}

theorem claimants_layerFiles (file : ProjectPath) :
    LayerFiles.claimants (b.layerFiles s) file = b.selecting s file := by
  rw [LayerFiles.claimants, layerFiles, List.filter_map, List.map_map]
  exact List.map_id _

theorem owner?_layerFiles (file : ProjectPath) :
    LayerFiles.owner? (b.layerFiles s) file = b.ownerOf? s file := by
  rw [LayerFiles.owner?, claimants_layerFiles, selecting, List.head?_filter, ownerOf?]

theorem mem_all_layerFiles (file : ProjectPath) :
    file ∈ LayerFiles.all (b.layerFiles s) ↔ ∃ l ∈ b.layers, file ∈ s.filesOf l.membership := by
  simp [LayerFiles.all, layerFiles]

theorem isSome_ownerOf? (file : ProjectPath) :
    (b.ownerOf? s file).isSome = true ↔ ∃ l ∈ b.layers, file ∈ s.filesOf l.membership := by
  simp [ownerOf?]

theorem ownerOf?_mem {file : ProjectPath} {own : Layer} (h : b.ownerOf? s file = some own) :
    own ∈ b.layers :=
  List.mem_of_find?_eq_some h

theorem map_mark_overlap (file : ProjectPath) :
    (overlap s (b.layerFiles s) file).map Violation.mark =
      if 2 ≤ (b.selecting s file).length then
        some ("LAYER002", s.severity.mildest .warning, .whole file)
      else none := by
  rw [overlap, claimants_layerFiles]
  rcases b.selecting s file with _ | ⟨first, _ | ⟨second, rest⟩⟩ <;>
    simp [Violation.mark, Scope.warning, Scope.violationAt, overlapCode]

end Claims

section Edges

variable {b : ImportBoundary} {s : Scope}

variable (hnames : (b.layers.map (·.name)).Nodup) {own : Layer} (hown : own ∈ b.layers)
include hnames hown

theorem map_mark_checkEdge (file : ProjectPath) (edge : Import.Edge) :
    (b.checkEdge s (b.layerFiles s) own file edge).map Violation.mark =
      if Import.isRelative edge.specifier then b.due? s own file edge else none := by
  by_cases hrelative : Import.isRelative edge.specifier = true
  · rw [if_pos hrelative, checkEdge]
    rcases hresolve : Import.resolve s.view edge.specifier file with target | _ | _
    case file =>
      simp only [owner?_layerFiles]
      rcases howner : b.ownerOf? s target with _ | other
      case none => simp [due?, Crosses, hresolve, Import.Target.file?, howner]
      case some =>
        have hallowed := Layer.mayImport_iff hnames hown (ownerOf?_mem howner)
        have hcrosses : b.Crosses s own file edge ↔ ¬own.mayImport other.name = true := by
          rw [hallowed]
          simp [Crosses, hresolve, Import.Target.file?, howner]
        by_cases hmay : own.mayImport other.name = true
        · rw [due?, if_neg (hcrosses.not_left.mpr hmay)]
          simp [hresolve, Import.Target.file?, hmay]
        · rw [due?, if_pos (hcrosses.mpr hmay)]
          simp [hmay, crossing, Violation.mark, Scope.violation, Scope.violationAt, code]
    case external => exact absurd hresolve (Import.resolve_ne_external hrelative)
    case unresolved =>
      have hstays : ¬b.Crosses s own file edge := by
        simp [Crosses, hresolve, Import.Target.file?]
      rw [due?, if_neg hstays]
      cases b.reportUnresolved <;>
        simp [hresolve, Import.Target.file?, Violation.mark, Scope.warning, Scope.violationAt,
          unresolvedCode]
  · rw [if_neg hrelative, checkEdge,
      Import.resolve_of_not_isRelative (Bool.eq_false_iff.mpr hrelative)]
    rfl

end Edges

section Files

variable {b : ImportBoundary} {s : Scope} {file : ProjectPath} {text : String}

theorem dueIn_of_ownerOf?_none (h : b.ownerOf? s file = none) : b.dueIn s file text = [] := by
  rw [dueIn, h]

/-- What is told of a file is what is due there. -/
theorem map_mark_checkFile (hnames : (b.layers.map (·.name)).Nodup)
    (htext : s.view.text? file = some text) :
    (b.checkFile s (b.layerFiles s) file).map Violation.mark = b.dueIn s file text := by
  rw [checkFile, owner?_layerFiles, dueIn]
  cases howner : b.ownerOf? s file with
  | none => rfl
  | some own =>
    simp only [Scope.inText, htext, List.map_filterMap, List.filterMap_filter,
      map_mark_checkEdge hnames (ownerOf?_mem howner)]

end Files

section Check

variable {t : Tree} (ht : t.WellFormed) {b : ImportBoundary} {s : Scope} (hview : s.view = t.view)
include ht hview

/-- The files of the layers are those files of the tree that have an owner. -/
theorem all_layerFiles :
    LayerFiles.all (b.layerFiles s) = t.paths.filter fun f => (b.ownerOf? s f).isSome := by
  refine (Ascending.ofList_sorted _).eq_of_mem_iff (ht.files_sorted.filter _) fun f => ?_
  rw [List.mem_filter, isSome_ownerOf?]
  refine (mem_all_layerFiles f).trans (iff_and_self.mpr fun ⟨l, _, hf⟩ => ?_)
  rw [Scope.filesOf, hview, FileView.mem_matchFiles ht] at hf
  exact (t.isFile_iff f).mp hf.1

theorem map_mark_overlaps :
    ((LayerFiles.all (b.layerFiles s)).filterMap (overlap s (b.layerFiles s))).map Violation.mark =
      (t.paths.filter fun f => 2 ≤ (b.selecting s f).length).map fun f =>
        ("LAYER002", s.severity.mildest .warning, .whole f) := by
  have howned (f : ProjectPath) (h : 2 ≤ (b.selecting s f).length) :
      (b.ownerOf? s f).isSome = true := by
    rw [ownerOf?, ← List.head?_filter, List.isSome_head?]
    exact List.ne_nil_of_length_pos (Nat.zero_lt_of_lt h)
  rw [all_layerFiles ht hview, List.map_filterMap, List.filterMap_filter, ← List.filterMap_eq_map,
    List.filterMap_filter]
  refine List.filterMap_congr fun f _ => ?_
  rw [map_mark_overlap]
  by_cases htwo : 2 ≤ (b.selecting s f).length
  · simp [htwo, howned f htwo]
  · simp [htwo]

theorem map_mark_files (hnames : (b.layers.map (·.name)).Nodup) :
    ((LayerFiles.all (b.layerFiles s)).flatMap (b.checkFile s (b.layerFiles s))).map
        Violation.mark = t.files.flatMap fun entry => b.dueIn s entry.1 entry.2 := by
  have hunowned (entry : ProjectPath × String) (h : (b.ownerOf? s entry.1).isSome = false) :
      b.dueIn s entry.1 entry.2 = [] :=
    dueIn_of_ownerOf?_none (Option.isNone_iff_eq_none.mp (Option.isSome_eq_false_iff.mp h))
  rw [all_layerFiles ht hview, Tree.paths_filter, List.map_flatMap, List.flatMap_map,
    ← flatMap_filter_of_nil hunowned]
  refine List.flatMap_congr fun entry hentry => map_mark_checkFile hnames ?_
  rw [hview]
  exact ht.text?_of_mem (List.mem_of_mem_filter hentry)

end Check

/-- Layers are told of exactly what is due: first, in ascending order, of the files that more than
one of them selects, never as an error; and then, file by file and in source order, of the imports
that cross from one layer to another or lead nowhere. -/
theorem check_exact [Explanations] (entries : List (String × String)) {d : RuleDocument}
    {spec : RuleSpec} {b : ImportBoundary} (hspec : RuleSpec.compile d = .ok spec)
    (hkind : spec.kind = .importBoundary b) {s : Scope}
    (hview : s.view = (Tree.ofList entries).view) :
    (b.check s).map Violation.mark =
      ((Tree.ofList entries).paths.filter fun f => 2 ≤ (b.selecting s f).length).map
        (fun f => ("LAYER002", s.severity.mildest .warning, .whole f)) ++
      (Tree.ofList entries).files.flatMap (fun entry => b.dueIn s entry.1 entry.2) ∧
    (Tree.ofList entries).paths.Pairwise (· < ·) ∧
    (∀ entry ∈ (Tree.ofList entries).files,
      ((Import.edges entry.2 b.extract).map (·.line)).Pairwise (· ≤ ·)) ∧
    s.severity.mildest .warning ≤ .warning := by
  have ht := Tree.wellFormed_ofList entries
  refine ⟨?_, ht.files_sorted, fun entry _ => Import.edges_sorted _ _, Severity.mildest_le_right _ _⟩
  rw [check, List.map_append, map_mark_overlaps ht hview,
    map_mark_files ht hview (RuleSpec.nodup_layers_of_compile hspec hkind)]

attribute [local instance] Explanations.brief

/-- A rule for two layers, the second of which holds the files of the first as well. -/
def overlapping : RuleDocument where
  id := "layers"
  kind := "import-boundary"
  options :=
    [("layers", .array
      [.object [("name", .string "core"), ("pattern", .string "src/core/**")],
        .object [("name", .string "app"), ("pattern", .string "src/**"),
          ("allowed", .strings [])]]),
      ("report_unresolved", .bool true)]

def overlappingSpec : ImportBoundary where
  layers :=
    [⟨"core", ⟨"src/core/**", [.literal "src", .literal "core", .recursive]⟩, []⟩,
      ⟨"app", ⟨"src/**", [.literal "src", .recursive]⟩, []⟩]
  extract := {}
  reportUnresolved := true

def overlappingProject : List (String × String) :=
  [("src/core/a.ts", "import '../b';\nimport 'react';"), ("src/b.ts", "import './c';")]

def overlappingScope : Scope :=
  ⟨"layers", .error, none, (Tree.ofList overlappingProject).view, .empty, []⟩

theorem check_exact_overlapping :
    RuleSpec.compile overlapping =
      .ok ⟨"layers", .error, .empty, none, .importBoundary overlappingSpec⟩ ∧
    (overlappingSpec.check overlappingScope).map Violation.mark =
      [("LAYER002", .warning, ⟨⟨"src/core/a.ts"⟩, none, none⟩),
        ("LAYER003", .warning, ⟨⟨"src/b.ts"⟩, some 1, none⟩),
        ("LAYER001", .error, ⟨⟨"src/core/a.ts"⟩, some 1, none⟩)] := by
  have hspec : RuleSpec.compile overlapping =
      .ok ⟨"layers", .error, .empty, none, .importBoundary overlappingSpec⟩ := rfl
  have hfiles : (Tree.ofList overlappingProject).files =
      [(⟨"src/b.ts"⟩, "import './c';"), (⟨"src/core/a.ts"⟩, "import '../b';\nimport 'react';")] := by
    decide +kernel
  have hedges : Import.edges "import './c';" {} = [⟨"./c", 1, .static⟩] := by
    rw [Import.edges, Import.finds, List.mergeSort_of_pairwise (by decide +kernel)]
    decide +kernel
  have hedges' : Import.edges "import '../b';\nimport 'react';" {} =
      [⟨"../b", 1, .static⟩, ⟨"react", 2, .static⟩] := by
    rw [Import.edges, Import.finds, List.mergeSort_of_pairwise (by decide +kernel)]
    decide +kernel
  refine ⟨hspec, (check_exact overlappingProject hspec rfl (s := overlappingScope) rfl).1.trans ?_⟩
  rw [hfiles]
  simp only [List.flatMap_cons, List.flatMap_nil, dueIn, overlappingSpec, hedges, hedges']
  decide +kernel

end ImportBoundary
end TreeLint
