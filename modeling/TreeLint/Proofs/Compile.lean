import Mathlib.Data.List.Nodup
import Mathlib.Tactic.SplitIfs
import TreeLint.Proofs.Ascending
import TreeLint.Proofs.RelativePath
import TreeLint.Proofs.Results
import TreeLint.Rule.Compile

/-!
What compiled rules are like. A rule keeps the id that it is written with, without blanks at the
ends. It has something to check, all its patterns have segments, and what it names is there. So
nothing of this is looked at again when the rule is checked.
-/
namespace TreeLint

/-- Layers are told apart by their names, and only these are allowed. -/
structure ImportBoundary.WellFormed (b : ImportBoundary) : Prop where
  has_layer : b.layers ≠ []
  named : ∀ l ∈ b.layers, Unicode.trim l.name ≠ ""
  distinct : (b.layers.map (·.name)).Nodup
  declared : ∀ l ∈ b.layers, ∀ a ∈ l.allowed, a ∈ b.layers.map (·.name)
  membership : ∀ l ∈ b.layers, l.membership.segments ≠ []

/-- The barrel is the name of one file. -/
structure PublicApi.WellFormed (a : PublicApi) : Prop where
  modules : a.modules.segments ≠ []
  files : ∀ p ∈ a.files, p.segments ≠ []
  has_barrel : a.barrel ≠ ""
  barrel : '/' ∉ a.barrel.toList ∧ '\\' ∉ a.barrel.toList

structure Relationship.WellFormed (r : Relationship) : Prop where
  files : r.files.segments ≠ []
  has_template : r.requires ≠ [] ∨ r.forbids ≠ []

structure ForbiddenImport.WellFormed (f : ForbiddenImport) : Prop where
  files : f.files.segments ≠ []
  has_denial : f.deny ≠ [] ∨ f.denyPaths ≠ []
  deny_paths : ∀ p ∈ f.denyPaths, p.segments ≠ []

structure FileContent.WellFormed (c : FileContent) : Prop where
  files : c.files.segments ≠ []
  has_expression : c.mustMatch ≠ none ∨ c.mustNotMatch ≠ none

/-- Each entry is the text of a path below any directory that it is looked for in. -/
structure DirectoryStructure.WellFormed (d : DirectoryStructure) : Prop where
  directories : d.directories.segments ≠ []
  has_entry : d.required ≠ []
  entries : ∀ e ∈ d.required, ∃ p : ProjectPath, p.text = e ∧ p.Canonical ∧ p ≠ .root
  joins : ∀ e ∈ d.required, ∀ dir : ProjectPath, dir.Canonical → dir.joinRelative? e ≠ none

namespace RuleKind

def WellFormed : RuleKind → Prop
  | .importBoundary b => b.WellFormed
  | .publicApi a => a.WellFormed
  | .relationship r => r.WellFormed
  | .forbiddenImport f => f.WellFormed
  | .fileContent c => c.WellFormed
  | .directoryStructure d => d.WellFormed
  | .unsupported _ => True

/-- The kinds that can be checked, as they are written. -/
def known : List String :=
  ["import-boundary", "public-api", "relationship", "forbidden-import", "file-content",
    "directory-structure"]

theorem name_mem_known {kind : RuleKind} (h : ∀ text, kind ≠ .unsupported text) :
    kind.name ∈ known := by
  cases kind with
  | unsupported text => exact absurd rfl (h text)
  | _ => simp [name, known]

end RuleKind

namespace RuleSpec

variable {id field text : String}

theorem compilePattern_ok {p : Pattern} (h : compilePattern id field text = .ok p) :
    p.segments ≠ [] := by
  unfold compilePattern at h
  split at h
  · cases h
  · split_ifs at h with hempty
    obtain rfl := Except.ok.inj h
    simpa [Pattern.isEmpty] using hempty

/-- What is given is compiled, and nothing else. -/
theorem optionally_ok {α : Type} {f : String → Except RuleError α} {o : Option String}
    {r : Option α} (h : optionally f o = .ok r) :
    (r = none ↔ o = none) ∧ ∀ a ∈ r, ∃ text, f text = .ok a := by
  cases o with
  | none =>
    obtain rfl := Except.ok.inj h
    simp
  | some text =>
    obtain ⟨a, ha, rfl⟩ := map_ok_iff.mp h
    refine ⟨by simp, fun b hb => ⟨text, ?_⟩⟩
    rwa [← Option.some.inj hb]

theorem indexed_ok {α : Type} {f : String → String → Except RuleError α} {texts : List String}
    {compiled : List α} (h : indexed field f texts = .ok compiled) :
    (compiled = [] ↔ texts = []) ∧ ∀ a ∈ compiled, ∃ name text, f name text = .ok a := by
  refine ⟨(eq_nil_iff_of_mapM_ok h).trans List.zipIdx_eq_nil_iff, fun a ha => ?_⟩
  obtain ⟨⟨text, i⟩, -, hfx⟩ := mem_of_mapM_ok h ha
  exact ⟨_, text, hfx⟩

/-- Names that pass the check are not blank, all different, and new. -/
theorem checkNames_ok {layers : List LayerOptions} {seen : List String}
    (h : checkNames id seen layers = .ok ()) :
    (layers.map (·.name)).Nodup ∧ (∀ l ∈ layers, l.name ∉ seen) ∧
      ∀ l ∈ layers, Unicode.trim l.name ≠ "" := by
  induction layers generalizing seen with
  | nil => simp
  | cons l rest ih =>
    unfold checkNames at h
    split_ifs at h with hblank hseen
    obtain ⟨hnodup, hnew, hnamed⟩ := ih h
    have hl : l.name ∉ seen := by simpa using hseen
    refine ⟨List.nodup_cons.mpr ⟨fun hmem => ?_, hnodup⟩, List.forall_mem_cons.mpr ⟨hl, ?_⟩,
      List.forall_mem_cons.mpr ⟨by simpa using hblank, hnamed⟩⟩
    · obtain ⟨other, hother, hname⟩ := List.mem_map.mp hmem
      exact hnew other hother (by simp [hname])
    · exact fun other hother hmem => hnew other hother (List.mem_cons_of_mem _ hmem)

theorem compileLayer_ok {names : List String} {o : LayerOptions} {i : ℕ} {l : Layer}
    (h : compileLayer id names o i = .ok l) :
    l.name = o.name ∧ l.membership.segments ≠ [] ∧ ∀ a ∈ l.allowed, a ∈ names := by
  unfold compileLayer at h
  split at h
  · cases h
  · rename_i hdeclared
    obtain ⟨membership, hmembership, h⟩ := bind_ok_iff.mp h
    obtain rfl := Except.ok.inj h
    refine ⟨rfl, compilePattern_ok hmembership, fun a ha => ?_⟩
    simpa using List.find?_eq_none.mp hdeclared a ((Ascending.mem_ofList a _).mp ha)

theorem compileImportBoundary_wellFormed {o : ImportBoundaryOptions} {b : ImportBoundary}
    (h : compileImportBoundary id o = .ok b) : b.WellFormed := by
  obtain ⟨hlayers, h⟩ := guard_ok_iff.mp h
  obtain ⟨_, hnames, h⟩ := bind_ok_iff.mp h
  obtain ⟨layers, hcompiled, h⟩ := bind_ok_iff.mp h
  obtain rfl := Except.ok.inj h
  obtain ⟨hnodup, -, hnamed⟩ := checkNames_ok hnames
  have hsame : List.Forall₂ (fun x l => x.1.name = l.name) o.layers.zipIdx layers :=
    (mapM_ok_iff.mp hcompiled).imp fun _ _ hl => (compileLayer_ok hl).1.symm
  have heq : o.layers.map (·.name) = layers.map (·.name) := by
    rw [← List.forall₂_eq_eq_eq, List.forall₂_map_right_iff, ← List.zipIdx_map_fst 0 o.layers,
      List.map_map, List.forall₂_map_left_iff]
    exact hsame
  have hlayer (l : Layer) (hl : l ∈ layers) : ∃ given ∈ o.layers, l.name = given.name ∧
      l.membership.segments ≠ [] ∧ ∀ a ∈ l.allowed, a ∈ o.layers.map (·.name) := by
    obtain ⟨⟨given, i⟩, hgiven, hl⟩ := mem_of_mapM_ok hcompiled hl
    exact ⟨given, List.fst_mem_of_mem_zipIdx hgiven, compileLayer_ok hl⟩
  constructor
  case has_layer =>
    rw [Ne, eq_nil_iff_of_mapM_ok hcompiled, List.zipIdx_eq_nil_iff]
    simpa using hlayers
  case named =>
    intro l hl
    obtain ⟨given, hgiven, hname, -⟩ := hlayer l hl
    exact hname ▸ hnamed given hgiven
  case distinct => exact heq ▸ hnodup
  case declared =>
    intro l hl a ha
    obtain ⟨-, -, -, -, hallowed⟩ := hlayer l hl
    exact heq ▸ hallowed a ha
  case membership =>
    intro l hl
    obtain ⟨-, -, -, hmembership, -⟩ := hlayer l hl
    exact hmembership

theorem compilePublicApi_wellFormed {o : PublicApiOptions} {a : PublicApi}
    (h : compilePublicApi id o = .ok a) : a.WellFormed := by
  obtain ⟨hbarrel, h⟩ := guard_ok_iff.mp h
  obtain ⟨files, hfiles, h⟩ := bind_ok_iff.mp h
  obtain ⟨modules, hmodules, h⟩ := bind_ok_iff.mp h
  obtain rfl := Except.ok.inj h
  have hname : isFileName (o.barrel.getD defaultBarrel) = true := by simpa using hbarrel
  simp only [isFileName, Bool.and_eq_true, decide_eq_true_eq, Bool.not_eq_true',
    List.any_eq_false, ProjectPath.isSeparator, Bool.or_eq_true, not_or] at hname
  constructor
  case modules => exact compilePattern_ok hmodules
  case files =>
    intro p hp
    obtain ⟨text, htext⟩ := (optionally_ok hfiles).2 p hp
    exact compilePattern_ok htext
  case has_barrel => exact hname.1
  case barrel => exact ⟨fun hmem => (hname.2 _ hmem).1 rfl, fun hmem => (hname.2 _ hmem).2 rfl⟩

theorem compileRelationship_wellFormed {o : RelationshipOptions} {r : Relationship}
    (h : compileRelationship id o = .ok r) : r.WellFormed := by
  obtain ⟨hgiven, h⟩ := guard_ok_iff.mp h
  obtain ⟨files, hfiles, h⟩ := bind_ok_iff.mp h
  obtain ⟨requires, hrequires, h⟩ := bind_ok_iff.mp h
  obtain ⟨forbids, hforbids, h⟩ := bind_ok_iff.mp h
  obtain rfl := Except.ok.inj h
  constructor
  case files => exact compilePattern_ok hfiles
  case has_template =>
    rw [← not_and_or, eq_nil_iff_of_mapM_ok hrequires, eq_nil_iff_of_mapM_ok hforbids]
    simpa using hgiven

theorem compileForbiddenImport_wellFormed [Explanations] {o : ForbiddenImportOptions}
    {f : ForbiddenImport} (h : compileForbiddenImport id o = .ok f) : f.WellFormed := by
  obtain ⟨hgiven, h⟩ := guard_ok_iff.mp h
  obtain ⟨deny, hdeny, h⟩ := bind_ok_iff.mp h
  obtain ⟨denyPaths, hpaths, h⟩ := bind_ok_iff.mp h
  obtain ⟨files, hfiles, h⟩ := bind_ok_iff.mp h
  obtain rfl := Except.ok.inj h
  constructor
  case files => exact compilePattern_ok hfiles
  case has_denial =>
    rw [← not_and_or, (indexed_ok hdeny).1, (indexed_ok hpaths).1]
    simpa using hgiven
  case deny_paths =>
    intro p hp
    obtain ⟨name, text, hcompiled⟩ := (indexed_ok hpaths).2 p hp
    exact compilePattern_ok hcompiled

theorem compileFileContent_wellFormed [Explanations] {o : FileContentOptions} {c : FileContent}
    (h : compileFileContent id o = .ok c) : c.WellFormed := by
  obtain ⟨hgiven, h⟩ := guard_ok_iff.mp h
  obtain ⟨files, hfiles, h⟩ := bind_ok_iff.mp h
  obtain ⟨mustMatch, hmatch, h⟩ := bind_ok_iff.mp h
  obtain ⟨mustNotMatch, hnot, h⟩ := bind_ok_iff.mp h
  obtain rfl := Except.ok.inj h
  constructor
  case files => exact compilePattern_ok hfiles
  case has_expression =>
    rw [← not_and_or, (optionally_ok hmatch).1, (optionally_ok hnot).1]
    simpa using hgiven

theorem compileEntry_ok {entry e : String} (h : compileEntry id entry = .ok e) :
    ∃ p : ProjectPath, p.text = e ∧ p.Canonical ∧ p ≠ .root := by
  simp only [compileEntry] at h
  split at h
  · rename_i p hp
    split_ifs at h with hroot
    exact ⟨p, Except.ok.inj h, ProjectPath.canonical_of_normalize? hp,
      fun heq => hroot ((ProjectPath.isRoot_iff p).mpr heq)⟩
  · cases h

theorem compileDirectoryStructure_wellFormed {o : DirectoryStructureOptions}
    {d : DirectoryStructure} (h : compileDirectoryStructure id o = .ok d) : d.WellFormed := by
  obtain ⟨hgiven, h⟩ := guard_ok_iff.mp h
  obtain ⟨required, hrequired, h⟩ := bind_ok_iff.mp h
  obtain ⟨directories, hdirectories, h⟩ := bind_ok_iff.mp h
  obtain rfl := Except.ok.inj h
  have hentries (e : String) (he : e ∈ required) :
      ∃ p : ProjectPath, p.text = e ∧ p.Canonical ∧ p ≠ .root := by
    obtain ⟨entry, -, hentry⟩ := mem_of_mapM_ok hrequired he
    exact compileEntry_ok hentry
  constructor
  case directories => exact compilePattern_ok hdirectories
  case has_entry =>
    rw [Ne, eq_nil_iff_of_mapM_ok hrequired]
    simpa using hgiven
  case entries => exact hentries
  case joins =>
    intro e he dir hdir
    obtain ⟨p, rfl, hp, -⟩ := hentries e he
    simp [hdir.joinRelative?_text hp]

/-- A kind that is known is compiled as that kind, and is well-formed then. -/
theorem compileKind_ok [Explanations] {d : RuleDocument} {kind : RuleKind}
    (h : compileKind id d = .ok kind) :
    kind.WellFormed ∧ kind.name = d.kind ∧
      (d.kind ∈ RuleKind.known → ∀ text, kind ≠ .unsupported text) := by
  unfold compileKind at h
  split at h
  case h_7 =>
    obtain rfl := Except.ok.inj h
    refine ⟨trivial, rfl, fun hknown => ?_⟩
    simp_all [RuleKind.known]
  all_goals
    rename_i hkind
    obtain ⟨o, -, h⟩ := bind_ok_iff.mp h
    obtain ⟨compiled, hcompiled, rfl⟩ := map_ok_iff.mp h
    refine ⟨?_, hkind.symm, by simp⟩
  case h_1 => exact compileImportBoundary_wellFormed hcompiled
  case h_2 => exact compilePublicApi_wellFormed hcompiled
  case h_3 => exact compileRelationship_wellFormed hcompiled
  case h_4 => exact compileForbiddenImport_wellFormed hcompiled
  case h_5 => exact compileFileContent_wellFormed hcompiled
  case h_6 => exact compileDirectoryStructure_wellFormed hcompiled

theorem compile_ok [Explanations] {d : RuleDocument} {spec : RuleSpec} (h : compile d = .ok spec) :
    spec.id = Unicode.trim d.id ∧ spec.id ≠ "" ∧ compileKind spec.id d = .ok spec.kind := by
  obtain ⟨hid, h⟩ := guard_ok_iff.mp h
  obtain ⟨-, h⟩ := guard_ok_iff.mp h
  obtain ⟨severity, -, h⟩ := bind_ok_iff.mp h
  obtain ⟨exclude, -, h⟩ := bind_ok_iff.mp h
  obtain ⟨kind, hcompiled, h⟩ := bind_ok_iff.mp h
  obtain rfl := Except.ok.inj h
  exact ⟨rfl, by simpa using hid, hcompiled⟩

/-- No two layers of a compiled rule have the same name. -/
theorem nodup_layers_of_compile [Explanations] {d : RuleDocument} {spec : RuleSpec}
    {b : ImportBoundary} (h : compile d = .ok spec) (hkind : spec.kind = .importBoundary b) :
    (b.layers.map (·.name)).Nodup := by
  obtain ⟨-, -, hcompiled⟩ := compile_ok h
  have hsound := (compileKind_ok hcompiled).1
  rw [hkind] at hsound
  exact hsound.distinct

/-- A rule that compiles has its id without blanks at the ends, which leave something. Its kind is
the one that is written, and is checked just where it is known; all that checking it relies on
holds. -/
theorem compile_wellFormed [Explanations] {d : RuleDocument} {spec : RuleSpec}
    (h : compile d = .ok spec) :
    spec.id = Unicode.trim d.id ∧ spec.id ≠ "" ∧ spec.kind.name = d.kind ∧
    ((∃ text, spec.kind = .unsupported text) ↔ d.kind ∉ RuleKind.known) ∧
    spec.kind.WellFormed := by
  obtain ⟨hid, hne, hcompiled⟩ := compile_ok h
  obtain ⟨hsound, hname, hsupported⟩ := compileKind_ok hcompiled
  refine ⟨hid, hne, hname, ⟨?_, fun hunknown => ?_⟩, hsound⟩
  · rintro ⟨text, htext⟩ hknown
    exact hsupported hknown text htext
  · by_contra hall
    exact hunknown (hname ▸ RuleKind.name_mem_known (not_exists.mp hall))

attribute [local instance] Explanations.brief

/-- A rule with blanks around its id and entries that are not in canonical form. -/
def layout : RuleDocument where
  id := " layout\t"
  kind := "directory-structure"
  options := [("directories", .string "src/*"), ("required", .strings ["./types//", "a/../b"])]

theorem compile_wellFormed_layout :
    ∃ spec d, compile layout = .ok spec ∧ spec.id = "layout" ∧
      spec.kind = .directoryStructure d ∧ d.required = ["types", "b"] ∧ d.WellFormed :=
  ⟨_, _, rfl, rfl, rfl, rfl, (compile_wellFormed (d := layout) rfl).2.2.2.2⟩

end RuleSpec
end TreeLint
