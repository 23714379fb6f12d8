import TreeLint.Config.Error
import TreeLint.Config.Preset

/-!
The presets that a document extends. Each preset stands after all that it extends itself, and stands
once, where it is first come to. A document that extends itself in the end is an error.
-/
namespace TreeLint

/-- What tells one preset from another: its name, or the file that it is written in. -/
inductive PresetKey
  | builtin (name : String)
  | file (path : HostPath)
deriving DecidableEq, Repr

namespace PresetKey

def display : PresetKey → String
  | .builtin name => Preset.builtinStart ++ name
  | .file path => path.text

/-- Whether two keys stand for the same preset. -/
def same : PresetKey → PresetKey → Bool
  | .builtin a, .builtin b => a = b
  | .file p, .file q => p.same q
  | _, _ => false

/-- Reads an entry of a document that lies in `dir`. Files are named by relative paths. -/
def parse (entry : String) (dir : HostPath) (origin : String) : Except ConfigError PresetKey :=
  if entry.startsWith Preset.builtinStart then
    .ok (.builtin (String.ofList (entry.toList.drop Preset.builtinStart.length)))
  else if entry.startsWith "./" || entry.startsWith "../" then
    .ok (.file (dir.join ⟨entry⟩).normalize)
  else .error (.unknownNamespace entry origin)

/-- The directory that the entries of a preset are relative to. A built-in preset has none. -/
def dir? : PresetKey → Option HostPath
  | .builtin _ => none
  | .file path => path.parent?

end PresetKey

/-- Where presets come from. `load` also takes the name of the document that refers to the preset,
which is there for errors only. No more than `size` keys can be loaded. -/
structure PresetSource where
  load : PresetKey → String → Except ConfigError Document
  size : Nat
  load_ok : ∀ {key origin origin' document},
    load key origin = .ok document → load key origin' = .ok document

namespace PresetSource

def loadBuiltin (name origin : String) : Except ConfigError Document :=
  match Preset.builtin? name with
  | some d => .ok d
  | none => .error (.unknownPreset name origin Preset.names)

theorem loadBuiltin_ok {name origin origin' : String} {document : Document}
    (h : loadBuiltin name origin = .ok document) : loadBuiltin name origin' = .ok document := by
  unfold loadBuiltin at h ⊢
  split at h
  · exact h
  · cases h

/-- Presets given as texts under the names of their keys, and besides them the built-in ones. A name
may be that of a file and that of a built-in preset. -/
def ofTexts [Explanations] (texts : List (String × DocumentFormat × String)) : PresetSource where
  load key origin :=
    match Ascending.find? key.display texts with
    | some (format, text) => Document.read format text key.display
    | none =>
      match key with
      | .builtin name => loadBuiltin name origin
      | .file path => .error (.presetNotFound path origin)
  size := 2 * texts.length + Preset.builtins.length
  load_ok := by
    intro key origin origin' document h
    split at h
    · exact h
    · cases key with
      | builtin name => exact loadBuiltin_ok h
      | file path => cases h

end PresetSource

/-- A preset that was loaded. -/
structure ResolvedPreset where
  key : PresetKey
  document : Document
deriving Repr

namespace PresetSource

/-- The document that the last key of an ancestry stands for, as it is named in errors. -/
def originOf (ancestry : List PresetKey) : String :=
  match ancestry.getLast? with
  | some key => key.display
  | none => "<config>"

/-- The keys from the first stand of `key` on, and `key` again. -/
def cycleOf (ancestry : List PresetKey) (key : PresetKey) : List String :=
  (ancestry.dropWhile (!·.same key) ++ [key]).map PresetKey.display

/-- Adds the preset that `entry` extends to those that are resolved, after what `expandBases` adds
for its document. -/
def expandEntry (source : PresetSource)
    (expandBases : HostPath → List PresetKey → List ResolvedPreset → List String →
      Except ConfigError (List ResolvedPreset))
    (dir : HostPath) (ancestry : List PresetKey) (resolved : List ResolvedPreset)
    (entry : String) : Except ConfigError (List ResolvedPreset) := do
  let origin := originOf ancestry
  let key ← PresetKey.parse entry dir origin
  if ancestry.any (·.same key) then throw (.cycle (cycleOf ancestry key))
  if resolved.any (·.key.same key) then return resolved
  let document ← source.load key origin
  let resolved ← expandBases (key.dir?.getD dir) (ancestry ++ [key]) resolved document.bases
  return resolved ++ [⟨key, document⟩]

/-- Adds the presets that `entries` extend to those that are resolved. `ancestry` are the documents
on the way here; it is never longer by more than `depth` keys, unless the way has no end. -/
def expand (source : PresetSource) : (depth : Nat) → HostPath → List PresetKey →
    List ResolvedPreset → List String → Except ConfigError (List ResolvedPreset)
  | 0, _, ancestry, resolved, entries =>
    if entries.isEmpty then .ok resolved else .error (.cycle (ancestry.map PresetKey.display))
  | n + 1, dir, ancestry, resolved, entries =>
    entries.foldlM (expandEntry source (expand source n) dir ancestry) resolved

/-- All presets that `entries` extend, each after those that it extends itself. -/
def resolve (source : PresetSource) (entries : List String) (dir : HostPath)
    (ancestry : List PresetKey) : Except ConfigError (List ResolvedPreset) :=
  source.expand (source.size + 1) dir ancestry [] entries

end PresetSource
end TreeLint
