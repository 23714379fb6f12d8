import TreeLint.Explanations
import TreeLint.Pattern

/-!
Why a configuration cannot be used at all. A `detail` is what others say of a file or of a text.
-/
namespace TreeLint

inductive ConfigError
  | notFound (path : HostPath)
  | unreadable (path : HostPath) (detail : String)
  | unparsable (origin detail : String)
  | cycle (chain : List String)
  | unknownNamespace (entry origin : String)
  | unknownPreset (name origin : String) (available : List String)
  | presetNotFound (path : HostPath) (origin : String)
  | invalidPattern (field : String) (error : PatternError)
deriving DecidableEq, Repr

namespace ConfigError

def message : ConfigError → String
  | .notFound path => s!"config file not found: {path.text}"
  | .unreadable path detail => s!"failed to read {path.text}: {detail}"
  | .unparsable origin detail => s!"failed to parse {origin}: {detail}"
  | .cycle chain => "extends cycle detected: " ++ " -> ".intercalate chain
  | .unknownNamespace entry origin => s!"unsupported extends entry `{entry}` in {origin}"
  | .unknownPreset name origin available =>
    s!"unknown built-in preset `{name}` in {origin} (available: " ++ ", ".intercalate available ++ ")"
  | .presetNotFound path origin =>
    s!"preset file {path.text} referenced from {origin} does not exist"
  | .invalidPattern field error => s!"invalid pattern in `{field}`: {error.message}"

/-- The name of an error in reports. -/
def code (e : ConfigError) : String :=
  "struct_lint::config::" ++
    match e with
    | .notFound _ => "not_found"
    | .unreadable _ _ => "io"
    | .unparsable _ _ => "parse"
    | .cycle _ => "cycle"
    | .unknownNamespace _ _ => "unknown_namespace"
    | .unknownPreset _ _ _ => "unknown_preset"
    | .presetNotFound _ _ => "preset_not_found"
    | .invalidPattern _ _ => "pattern"

/-- What to do about it. -/
def help? : ConfigError → Option String
  | .notFound _ => some "check the path passed with --config"
  | .cycle _ => some "remove one of the `extends` entries along this chain"
  | .unknownNamespace _ _ => some "use `builtin/<name>` or a path starting with `./` or `../`"
  | .unknownPreset _ _ _ => some "run `struct-lint list-rules --presets` to see built-in presets"
  | _ => none

end ConfigError

/-- Reads a document; `origin` names it in errors. -/
def Document.read [Explanations] (format : DocumentFormat) (text origin : String) :
    Except ConfigError Document :=
  match parse? format text with
  | some d => .ok d
  | none => .error (.unparsable origin (Explanations.document format text))

end TreeLint
