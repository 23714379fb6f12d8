import TreeLint.Config.Chain
import TreeLint.Config.Merged
import TreeLint.Rule.Compile

/-!
The configuration that a run goes by: the defaults, the presets and the project's own document laid
over one another, with their patterns read and their rules compiled. A rule that does not compile
is kept together with its error.
-/
namespace TreeLint

/-- Where a configuration was found. -/
inductive ConfigSource
  | explicit (path : HostPath)
  | project (path : HostPath)
  | defaults
deriving DecidableEq, Repr

def ConfigSource.path? : ConfigSource → Option HostPath
  | .explicit path => some path
  | .project path => some path
  | .defaults => none

/-- The path inside the project in `root` of a file of the host, when it lies there. -/
def ProjectPath.ofFile? (path root : HostPath) : Option ProjectPath :=
  (ProjectPath.ofHost? path.normalize root.normalize).filter (!·.isRoot)

/-- A document with the name it has in reports, and the file that errors in it are shown in. -/
structure NamedDocument where
  document : Document
  origin : String
  file : Option ProjectPath
deriving Repr

namespace NamedDocument

/-- Files of the project are called by their paths in it. -/
def originOf (path root : HostPath) : String :=
  match ProjectPath.ofFile? path root with
  | some p => p.display
  | none => path.text

/-- A preset that is no file of the project is shown in `configFile`. -/
def ofPreset (root : HostPath) (configFile : Option ProjectPath) (preset : ResolvedPreset) :
    NamedDocument :=
  match preset.key with
  | .builtin _ => ⟨preset.document, preset.key.display, configFile⟩
  | .file path =>
    ⟨preset.document, originOf path root, (ProjectPath.ofFile? path root).or configFile⟩

/-- The file of the last document with a name. -/
def fileOf (documents : List NamedDocument) (origin : String) : Option ProjectPath :=
  (documents.reverse.find? (·.origin = origin)).bind (·.file)

end NamedDocument

/-- A rule of a configuration. -/
structure ConfiguredRule where
  document : RuleDocument
  origin : String
  file : Option ProjectPath
  compiled : Except RuleError RuleSpec

def ConfiguredRule.ofDocument [Explanations] (document : RuleDocument) (origin : String)
    (file : Option ProjectPath) : ConfiguredRule :=
  ⟨document, origin, file, RuleSpec.compile document⟩

/-- A configuration ready for use. -/
structure Configuration where
  version : Nat
  included : List Pattern
  excluded : List String
  ignore : IgnoreSet
  tools : List (String × Value)
  integrations : List (String × Value)
  rules : List ConfiguredRule
  source : ConfigSource
  presets : List String

namespace Configuration

def defaultsName : String := "<defaults>"

def textName : String := "<config>"

/-- The presets that a project's own document extends, and the document itself after them. -/
def ownDocuments (root : HostPath) (source : ConfigSource) (document : Document)
    (presets : PresetSource) : Except ConfigError (List NamedDocument × NamedDocument) := do
  let configFile := source.path?.bind (ProjectPath.ofFile? · root)
  let (ancestry, dir, origin) :=
    match source.path? with
    | some path =>
      ([PresetKey.file path.normalize], path.parent?.getD root, NamedDocument.originOf path root)
    | none => ([], root, textName)
  let chain ← presets.resolve document.bases dir ancestry
  return (chain.map (NamedDocument.ofPreset root configFile), ⟨document, origin, configFile⟩)

def readIncluded (patterns : List String) : Except ConfigError (List Pattern) :=
  match patterns.mapM Pattern.parse with
  | .ok ps => .ok ps
  | .error e => .error (.invalidPattern "include" e)

def readExcluded (entries : List String) : Except ConfigError IgnoreSet :=
  match IgnoreSet.ofEntries entries with
  | .ok s => .ok s
  | .error e => .error (.invalidPattern "exclude" e)

/-- The configuration that some documents make. `named` are those that rules may come from. -/
def ofMerged [Explanations] (m : Merged) (named : List NamedDocument) (presets : List String)
    (source : ConfigSource) : Except ConfigError Configuration := do
  let included ← readIncluded m.included
  let ignore ← readExcluded m.excluded
  return {
    version := m.version
    included
    excluded := m.excluded
    ignore
    tools := m.tools
    integrations := m.integrations
    rules := m.rules.map fun r =>
      .ofDocument r.rule r.origin (NamedDocument.fileOf named r.origin)
    source
    presets }

/-- The configuration of the project in `root`, from its own document, if it has one. -/
def build [Explanations] (root : HostPath) (source : ConfigSource) (document : Option Document)
    (presets : PresetSource) : Except ConfigError Configuration := do
  let (chain, own) ←
    match document with
    | none => pure ([], [])
    | some d => do
      let (chain, named) ← ownDocuments root source d presets
      pure (chain, [named])
  let named := chain ++ own
  let merged := Merged.ofDocuments
    ((Preset.defaults, defaultsName) :: named.map fun n => (n.document, n.origin))
  ofMerged merged named (chain.map (·.origin)) source

/-- Whether a path is one that rules look at unless they say otherwise. -/
def isIncluded (c : Configuration) (path : ProjectPath) : Bool :=
  c.included.any (·.isMatch path) && !c.ignore.isIgnored path

end Configuration
end TreeLint
