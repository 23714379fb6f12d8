import TreeLint.Proofs.IgnoreEntries
import TreeLint.Rule.Compile

/-!
What the errors of rules say. Each error names the rule that does not compile, under the id that the
rule would have, and a text that it blames cannot be read. What others say of an expression is
handed on where the expression does not compile, and nowhere else.
-/
namespace TreeLint

/-- What is wrong where an error is told of a rule with an id and a kind. -/
def RuleError.Blames [Explanations] (id kind : String) : RuleError → Prop
  | .missingId => id = ""
  | .missingKind named => named = id ∧ Unicode.trim kind = ""
  | .invalidSeverity named text => named = id ∧ Severity.ofName? text = none
  | .invalidOptions named namedKind _ => named = id ∧ namedKind = kind
  | .invalidPattern named _ error => named = id ∧ ∃ text, Pattern.parse text = .error error
  | .invalidRegex named _ detail => named = id ∧
    ∃ text, Regex.parse? text = none ∧ detail = Explanations.expression text
  | .duplicateLayer named _ => named = id
  | .unknownLayer named _ _ => named = id
  | .invalidTemplate named text error => named = id ∧ PathTemplate.parse text = .error error
  | .emptyConstraint named _ => named = id

namespace RuleSpec

variable [Explanations] {id kind : String}

theorem compilePattern_blames (field text : String) :
    FailsOnly (RuleError.Blames id kind) (compilePattern id field text) := by
  unfold compilePattern
  split
  · next hparse => exact .error ⟨rfl, text, hparse⟩
  · split_ifs
    · exact .error rfl
    · exact .ok _

theorem compileRegex_blames (field text : String) :
    FailsOnly (RuleError.Blames id kind) (compileRegex id field text) := by
  unfold compileRegex
  split
  · exact .ok _
  · next hparse => exact .error ⟨rfl, text, hparse, rfl⟩

theorem compileTemplate_blames (text : String) :
    FailsOnly (RuleError.Blames id kind) (compileTemplate id text) := by
  unfold compileTemplate
  split
  · exact .ok _
  · next hparse => exact .error ⟨rfl, hparse⟩

theorem optionally_blames {α : Type} {f : String → Except RuleError α}
    (h : ∀ text, FailsOnly (RuleError.Blames id kind) (f text)) (text? : Option String) :
    FailsOnly (RuleError.Blames id kind) (optionally f text?) := by
  cases text? with
  | none => exact .ok _
  | some text => exact (h text).map some

theorem indexed_blames {α : Type} {f : String → String → Except RuleError α}
    (h : ∀ field text, FailsOnly (RuleError.Blames id kind) (f field text)) (field : String)
    (texts : List String) : FailsOnly (RuleError.Blames id kind) (indexed field f texts) :=
  .mapM (fun _ => h _ _) _

theorem checkNames_blames (hkind : kind = "import-boundary") (seen : List String)
    (layers : List LayerOptions) :
    FailsOnly (RuleError.Blames id kind) (checkNames id seen layers) := by
  induction layers generalizing seen with
  | nil => exact .ok ()
  | cons l rest ih =>
    unfold checkNames
    split_ifs
    · exact .error ⟨rfl, hkind.symm⟩
    · exact .error rfl
    · exact ih _

theorem compileLayer_blames (names : List String) (l : LayerOptions) (i : ℕ) :
    FailsOnly (RuleError.Blames id kind) (compileLayer id names l i) := by
  unfold compileLayer
  split
  · exact .error rfl
  · exact .bind (compilePattern_blames _ _) fun _ => .ok _

theorem compileImportBoundary_blames (hkind : kind = "import-boundary")
    (o : ImportBoundaryOptions) :
    FailsOnly (RuleError.Blames id kind) (compileImportBoundary id o) := by
  refine .guard (fun _ => rfl) (.bind (checkNames_blames hkind _ _) fun _ => ?_)
  exact .bind (.mapM (fun _ => compileLayer_blames _ _ _) _) fun _ => .ok _

theorem compilePublicApi_blames (hkind : kind = "public-api") (o : PublicApiOptions) :
    FailsOnly (RuleError.Blames id kind) (compilePublicApi id o) := by
  refine .guard (fun _ => ⟨rfl, hkind.symm⟩) ?_
  refine .bind (optionally_blames (fun _ => compilePattern_blames _ _) _) fun _ => ?_
  exact .bind (compilePattern_blames _ _) fun _ => .ok _

theorem compileRelationship_blames (o : RelationshipOptions) :
    FailsOnly (RuleError.Blames id kind) (compileRelationship id o) := by
  refine .guard (fun _ => rfl) (.bind (compilePattern_blames _ _) fun _ => ?_)
  refine .bind (.mapM (fun _ => compileTemplate_blames _) _) fun _ => ?_
  exact .bind (.mapM (fun _ => compileTemplate_blames _) _) fun _ => .ok _

theorem compileForbiddenImport_blames (o : ForbiddenImportOptions) :
    FailsOnly (RuleError.Blames id kind) (compileForbiddenImport id o) := by
  refine .guard (fun _ => rfl) ?_
  refine .bind (indexed_blames compileRegex_blames _ _) fun _ => ?_
  refine .bind (indexed_blames compilePattern_blames _ _) fun _ => ?_
  exact .bind (compilePattern_blames _ _) fun _ => .ok _

theorem compileFileContent_blames (o : FileContentOptions) :
    FailsOnly (RuleError.Blames id kind) (compileFileContent id o) := by
  refine .guard (fun _ => rfl) (.bind (compilePattern_blames _ _) fun _ => ?_)
  refine .bind (optionally_blames (fun _ => compileRegex_blames _ _) _) fun _ => ?_
  exact .bind (optionally_blames (fun _ => compileRegex_blames _ _) _) fun _ => .ok _

theorem compileEntry_blames (hkind : kind = "directory-structure") (entry : String) :
    FailsOnly (RuleError.Blames id kind) (compileEntry id entry) := by
  unfold compileEntry
  split
  · split_ifs
    · exact .error ⟨rfl, hkind.symm⟩
    · exact .ok _
  · exact .error ⟨rfl, hkind.symm⟩

theorem compileDirectoryStructure_blames (hkind : kind = "directory-structure")
    (o : DirectoryStructureOptions) :
    FailsOnly (RuleError.Blames id kind) (compileDirectoryStructure id o) := by
  refine .guard (fun _ => rfl) (.bind (.mapM (compileEntry_blames hkind) _) fun _ => ?_)
  exact .bind (compilePattern_blames _ _) fun _ => .ok _

theorem options_blames {α : Type} (r : Record α) (name : String) (d : RuleDocument) :
    FailsOnly (RuleError.Blames id d.kind) (options id r name d) := by
  unfold options
  split
  · exact .ok _
  · exact .error ⟨rfl, rfl⟩

theorem compileKind_blames (d : RuleDocument) :
    FailsOnly (RuleError.Blames id d.kind) (compileKind id d) := by
  unfold compileKind
  split
  case h_7 => exact .ok _
  all_goals
    rename_i hkind
    refine .bind (options_blames _ _ d) fun o => .map ?_ _
  case h_1 => exact compileImportBoundary_blames hkind o
  case h_2 => exact compilePublicApi_blames hkind o
  case h_3 => exact compileRelationship_blames o
  case h_4 => exact compileForbiddenImport_blames o
  case h_5 => exact compileFileContent_blames o
  case h_6 => exact compileDirectoryStructure_blames hkind o

theorem compileSeverity_blames (text? : Option String) :
    FailsOnly (RuleError.Blames id kind) (compileSeverity id text?) := by
  unfold compileSeverity
  split
  · exact .ok _
  · split
    · exact .ok _
    · next hname => exact .error ⟨rfl, hname⟩

theorem compileExclude_blames (entries : List String) :
    FailsOnly (RuleError.Blames id kind) (compileExclude id entries) := by
  unfold compileExclude
  split
  · exact .ok _
  · next hentries => exact .error ⟨rfl, IgnoreSet.failsOnly_ofEntries entries _ hentries⟩

/-- A rule that does not compile is named by its id, and something is wrong with it. -/
theorem compile_blames (d : RuleDocument) :
    FailsOnly (RuleError.Blames (Unicode.trim d.id) d.kind) (compile d) := by
  refine .guard (fun hid => String.isEmpty_iff.mp hid) ?_
  refine .guard (fun hkind => ⟨rfl, String.isEmpty_iff.mp hkind⟩) ?_
  refine .bind (compileSeverity_blames _) fun _ => .bind (compileExclude_blames _) fun _ => ?_
  exact .bind (compileKind_blames d) fun _ => .ok _

/-- An expression that does not compile is told of with what is said of it. -/
example : compile { id := "api", kind := "file-content", options :=
      [("files", .string "src/**"), ("must_match", .string "(")] } =
    .error (.invalidRegex "api" "must_match" (Explanations.expression "(")) :=
  rfl

end RuleSpec
end TreeLint
