import TreeLint.Config.Effective
import TreeLint.Disk

/-!
Finding and reading the configuration of a project on a disk.
-/
namespace TreeLint.Disk

/-- The names that the document of a project may have, in the order in which they are tried. -/
def configNames : List String := ["struct-lint.toml", ".struct-lint.toml", "struct-lint.json"]

/-- The document of the project in `root`: the one that is asked for, or the first that is there. -/
def locateConfig (d : Disk) (root : HostPath) (explicit : Option HostPath) : ConfigSource :=
  match explicit with
  | some path => .explicit (root.join path)
  | none =>
    match (configNames.map fun name => root.join ⟨name⟩).find? d.isFile with
    | some path => .project path
    | none => .defaults

/-- Reads a document; `missing` is the error when there is none. -/
def readDocument [Explanations] (d : Disk) (path : HostPath) (missing : ConfigError) :
    Except ConfigError Document :=
  match d.read path with
  | .ok text => Document.read (.ofPath path) text path.text
  | .error .missing => .error missing
  | .error .blocked => .error (.unreadable path (Explanations.file path))

theorem readDocument_ok [Explanations] {d : Disk} {path : HostPath} {missing missing' : ConfigError}
    {document : Document} (h : d.readDocument path missing = .ok document) :
    d.readDocument path missing' = .ok document := by
  unfold readDocument at h ⊢
  split at h
  · exact h
  · cases h
  · cases h

/-- No more paths in normal form than this lead anywhere: a path has so many names at most, each that
of an entry, and before them perhaps a root and perhaps one climb. -/
def pathCount (d : Disk) : Nat :=
  4 * Nat.pow (d.top.size + 1) ((maxLinks + 1) * (d.top.depth + 1))

/-- The presets on a disk, and the built-in ones. -/
def presets [Explanations] (d : Disk) : PresetSource where
  load
    | .builtin name, origin => PresetSource.loadBuiltin name origin
    | .file path, origin => d.readDocument path (.presetNotFound path origin)
  size := d.pathCount + Preset.builtins.length
  load_ok := by
    intro key origin origin' document h
    cases key with
    | builtin name => exact PresetSource.loadBuiltin_ok h
    | file path => exact readDocument_ok h

/-- The configuration of the project in `root`. -/
def loadConfig [Explanations] (d : Disk) (root : HostPath) (explicit : Option HostPath) :
    Except ConfigError Configuration := do
  let source := d.locateConfig root explicit
  let document ←
    match source.path? with
    | some path => some <$> d.readDocument path (.notFound path)
    | none => pure none
  Configuration.build root source document d.presets

end TreeLint.Disk
