import TreeLint.Explanations
import TreeLint.Regex.Parser
import TreeLint.Rule.Error
import TreeLint.Rule.Spec

/-!
Compiling rules. A rule that compiles has something to check, all that it names is declared, and all
its patterns, expressions and templates can be read.
-/
namespace TreeLint

/-- The options of a layer as written. -/
structure LayerOptions where
  name : String
  pattern : String
  allowed : List String

structure ImportBoundaryOptions where
  layers : List LayerOptions
  extract : Import.Options
  reportUnresolved : Bool

structure PublicApiOptions where
  modules : String
  files : Option String
  barrel : Option String
  allowSameModule : Bool
  extract : Import.Options

structure RelationshipOptions where
  files : String
  requires : List String
  forbids : List String

structure ForbiddenImportOptions where
  files : String
  deny : List String
  denyPaths : List String
  extract : Import.Options

structure FileContentOptions where
  files : String
  mustMatch : Option String
  mustNotMatch : Option String

structure DirectoryStructureOptions where
  directories : String
  required : List String

namespace RuleOptions

def texts (name : String) : Record (List String) := .optional name [] (.list Decode.text)

def text? (name : String) : Record (Option String) := .optional name none (.option Decode.text)

def flag (name : String) (fallback : Bool) : Record Bool := .optional name fallback Decode.bool

def extract : Record Import.Options :=
  Import.Options.mk <$> flag "include_type_only" true <*> flag "include_dynamic" true
    <*> flag "include_require" true

def layer : Record LayerOptions :=
  LayerOptions.mk <$> .required "name" Decode.text <*> .required "pattern" Decode.text
    <*> .optionalAs "allowed" ["allowed_layers"] [] (.list Decode.text)

def importBoundary : Record ImportBoundaryOptions :=
  ImportBoundaryOptions.mk <$> .optional "layers" [] (.list (layer.decode "LayerOptions" true))
    <*> extract <*> flag "report_unresolved" false

def publicApi : Record PublicApiOptions :=
  PublicApiOptions.mk <$> .required "modules" Decode.text <*> text? "files" <*> text? "barrel"
    <*> flag "allow_same_module" true <*> extract

def relationship : Record RelationshipOptions :=
  RelationshipOptions.mk <$> .required "files" Decode.text <*> texts "requires" <*> texts "forbids"

def forbiddenImport : Record ForbiddenImportOptions :=
  ForbiddenImportOptions.mk <$> .required "files" Decode.text <*> texts "deny"
    <*> texts "deny_paths" <*> extract

def fileContent : Record FileContentOptions :=
  FileContentOptions.mk <$> .required "files" Decode.text <*> text? "must_match"
    <*> text? "must_not_match"

def directoryStructure : Record DirectoryStructureOptions :=
  DirectoryStructureOptions.mk <$> .required "directories" Decode.text <*> texts "required"

end RuleOptions

namespace RuleSpec

variable (id : String)

/-- A pattern that can match something. -/
def compilePattern (field text : String) : Except RuleError Pattern :=
  match Pattern.parse text with
  | .error e => .error (.invalidPattern id field e)
  | .ok p => if p.isEmpty then .error (.emptyConstraint id (.segments field)) else .ok p

def compileRegex [Explanations] (field text : String) : Except RuleError Expression :=
  match Regex.parse? text with
  | some r => .ok ⟨text, r.matcher⟩
  | none => .error (.invalidRegex id field (Explanations.expression text))

def compileTemplate (text : String) : Except RuleError PathTemplate :=
  match PathTemplate.parse text with
  | .ok t => .ok t
  | .error e => .error (.invalidTemplate id text e)

/-- Compiles an optional text. -/
def optionally {α : Type} (f : String → Except RuleError α) :
    Option String → Except RuleError (Option α)
  | none => .ok none
  | some text => some <$> f text

/-- Compiles the texts of a list, which are called by their positions. -/
def indexed {α : Type} (field : String) (f : String → String → Except RuleError α)
    (texts : List String) : Except RuleError (List α) :=
  texts.zipIdx.mapM fun (text, i) => f s!"{field}[{i}]" text

/-- Names of layers are not blank, and each is given once. -/
def checkNames (seen : List String) : List LayerOptions → Except RuleError Unit
  | [] => .ok ()
  | l :: rest =>
    if (Unicode.trim l.name).isEmpty then
      .error (.invalidOptions id "import-boundary" .blankLayerName)
    else if seen.contains l.name then .error (.duplicateLayer id l.name)
    else checkNames (l.name :: seen) rest

def compileLayer (names : List String) (l : LayerOptions) (i : Nat) : Except RuleError Layer :=
  match l.allowed.find? fun a => !names.contains a with
  | some unknown => .error (.unknownLayer id l.name unknown)
  | none => do
    let membership ← compilePattern id s!"layers[{i}].pattern" l.pattern
    return ⟨l.name, membership, Ascending.ofList l.allowed⟩

def compileImportBoundary (o : ImportBoundaryOptions) : Except RuleError ImportBoundary := do
  if o.layers.isEmpty then throw (.emptyConstraint id .layers)
  checkNames id [] o.layers
  let names := o.layers.map (·.name)
  let layers ← o.layers.zipIdx.mapM fun (l, i) => compileLayer id names l i
  return ⟨layers, o.extract, o.reportUnresolved⟩

def defaultBarrel : String := "index.ts"

/-- Whether a text can be the name of one file. -/
def isFileName (name : String) : Bool := name ≠ "" && !name.toList.any ProjectPath.isSeparator

def compilePublicApi (o : PublicApiOptions) : Except RuleError PublicApi := do
  let barrel := o.barrel.getD defaultBarrel
  if !isFileName barrel then throw (.invalidOptions id "public-api" (.barrel barrel))
  let files ← optionally (compilePattern id "files") o.files
  let modules ← compilePattern id "modules" o.modules
  return ⟨modules, files, barrel, o.allowSameModule, o.extract⟩

def compileRelationship (o : RelationshipOptions) : Except RuleError Relationship := do
  if o.requires.isEmpty && o.forbids.isEmpty then throw (.emptyConstraint id .templates)
  let files ← compilePattern id "files" o.files
  let requires ← o.requires.mapM (compileTemplate id)
  let forbids ← o.forbids.mapM (compileTemplate id)
  return ⟨files, requires, forbids⟩

def compileForbiddenImport [Explanations] (o : ForbiddenImportOptions) :
    Except RuleError ForbiddenImport := do
  if o.deny.isEmpty && o.denyPaths.isEmpty then throw (.emptyConstraint id .denials)
  let deny ← indexed "deny" (compileRegex id) o.deny
  let denyPaths ← indexed "deny_paths" (compilePattern id) o.denyPaths
  let files ← compilePattern id "files" o.files
  return ⟨files, deny, denyPaths, o.extract⟩

def compileFileContent [Explanations] (o : FileContentOptions) : Except RuleError FileContent := do
  if o.mustMatch.isNone && o.mustNotMatch.isNone then throw (.emptyConstraint id .expressions)
  let files ← compilePattern id "files" o.files
  let mustMatch ← optionally (compileRegex id "must_match") o.mustMatch
  let mustNotMatch ← optionally (compileRegex id "must_not_match") o.mustNotMatch
  return ⟨files, mustMatch, mustNotMatch⟩

/-- An entry of a directory, in canonical form. -/
def compileEntry (entry : String) : Except RuleError String :=
  let fault : RuleError := .invalidOptions id "directory-structure" (.requiredEntry entry)
  match ProjectPath.normalize? entry with
  | some p => if p.isRoot then .error fault else .ok p.text
  | none => .error fault

def compileDirectoryStructure (o : DirectoryStructureOptions) :
    Except RuleError DirectoryStructure := do
  if o.required.isEmpty then throw (.emptyConstraint id .entries)
  let required ← o.required.mapM (compileEntry id)
  let directories ← compilePattern id "directories" o.directories
  return ⟨directories, required⟩

/-- Reads the options of a rule. -/
def options {α : Type} (r : Record α) (name : String) (d : RuleDocument) : Except RuleError α :=
  match r.decode name true (.object d.options) with
  | .ok a => .ok a
  | .error e => .error (.invalidOptions id d.kind (.decode e))

def compileKind [Explanations] (d : RuleDocument) : Except RuleError RuleKind :=
  match d.kind with
  | "import-boundary" => do
    let o ← options id RuleOptions.importBoundary "ImportBoundaryOptions" d
    .importBoundary <$> compileImportBoundary id o
  | "public-api" => do
    let o ← options id RuleOptions.publicApi "PublicApiOptions" d
    .publicApi <$> compilePublicApi id o
  | "relationship" => do
    let o ← options id RuleOptions.relationship "RelationshipOptions" d
    .relationship <$> compileRelationship id o
  | "forbidden-import" => do
    let o ← options id RuleOptions.forbiddenImport "ForbiddenImportOptions" d
    .forbiddenImport <$> compileForbiddenImport id o
  | "file-content" => do
    let o ← options id RuleOptions.fileContent "FileContentOptions" d
    .fileContent <$> compileFileContent id o
  | "directory-structure" => do
    let o ← options id RuleOptions.directoryStructure "DirectoryStructureOptions" d
    .directoryStructure <$> compileDirectoryStructure id o
  | kind => .ok (.unsupported kind)

/-- Without a severity of its own a rule reports errors. -/
def compileSeverity : Option String → Except RuleError Severity
  | none => .ok .error
  | some text =>
    match Severity.ofName? text with
    | some s => .ok s
    | none => .error (.invalidSeverity id text)

def compileExclude (entries : List String) : Except RuleError IgnoreSet :=
  match IgnoreSet.ofEntries entries with
  | .ok s => .ok s
  | .error e => .error (.invalidPattern id "exclude" e)

/-- Compiles a rule; the first thing that is wrong decides the error. Rules of a kind that is not
known compile too. -/
def compile [Explanations] (d : RuleDocument) : Except RuleError RuleSpec := do
  let id := Unicode.trim d.id
  if id.isEmpty then throw .missingId
  if (Unicode.trim d.kind).isEmpty then throw (.missingKind id)
  let severity ← compileSeverity id d.severity
  let exclude ← compileExclude id d.exclude
  let kind ← compileKind id d
  return ⟨id, severity, exclude, d.message, kind⟩

end RuleSpec
end TreeLint
