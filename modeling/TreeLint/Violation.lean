import TreeLint.Json.Print
import TreeLint.Path
import TreeLint.Severity
import TreeLint.Value.Decode

/-!
Findings: what rule found what, and where.
-/
namespace TreeLint

/-- A place in a project: a file, and perhaps a line and a column in it, counted from one. -/
structure Location where
  file : ProjectPath
  line : Option Nat := none
  column : Option Nat := none
deriving DecidableEq, Repr, Inhabited

namespace Location

/-- A column is shown only after a line. -/
def display (l : Location) : String :=
  match l.line, l.column with
  | none, _ => l.file.display
  | some line, none => s!"{l.file.display}:{line}"
  | some line, some column => s!"{l.file.display}:{line}:{column}"

def maxNumber : Nat := Nat.pow 2 64

def record : Record Location :=
  Location.mk <$> .required "file" (fun v => ProjectPath.mk <$> Decode.text v)
    <*> .optional "line" none (.option (.natBelow maxNumber "usize"))
    <*> .optional "column" none (.option (.natBelow maxNumber "usize"))

def toDoc (l : Location) : Json.Doc :=
  .object ([("file", .string l.file.text)] ++
    l.line.toList.map (("line", Json.Doc.nat ·)) ++ l.column.toList.map (("column", Json.Doc.nat ·)))

end Location

/-- One finding. -/
structure Violation where
  code : String
  ruleId : String
  severity : Severity
  location : Location
  message : String
  context : Option String := none
  suggestion : Option String := none
deriving DecidableEq, Repr, Inhabited

namespace Violation

/-- All on one line, as long as no part holds a line break. -/
def display (v : Violation) : String :=
  s!"{v.location.display}: {v.severity.name} [{v.ruleId}/{v.code}] {v.message}"

/-- A line for the place, one for the message, and one for each further remark. -/
def format (v : Violation) : String :=
  s!"{v.code} {v.ruleId} at {v.location.display}\n  {v.severity.name}: {v.message}\n" ++
    (match v.context with
      | some c => s!"  = note: {c}\n"
      | none => "") ++
    (match v.suggestion with
      | some s => s!"  = help: {s}\n"
      | none => "")

def toDoc (v : Violation) : Json.Doc :=
  .object ([("code", .string v.code), ("rule_id", .string v.ruleId),
      ("severity", .string v.severity.name), ("location", v.location.toDoc),
      ("message", .string v.message)] ++
    v.context.toList.map (("context", Json.Doc.string ·)) ++
    v.suggestion.toList.map fun s => ("suggestion", .object [("message", .string s)]))

/-- The names that a severity has in records, the mildest first. -/
def severityNames : List String := ["info", "warning", "error"]

def severityName (name : String) : Except DecodeError Severity :=
  match [Severity.info, .warning, .error].find? (·.name = name) with
  | some s => .ok s
  | none => .error (.unknownVariant name severityNames)

/-- A severity is given by its name, or by an object with the name as its one member. -/
def decodeSeverity : Decode Severity
  | .string s => severityName s
  | .object [(key, v)] => do
    let s ← severityName key
    match v with
    | .null => return s
    | v => throw (.wrongType v "unit")
  | .object ms => .error (.wrongValue (.object ms) "map with a single key")
  | v => .error (.wrongType v "string or map")

def suggestionRecord : Record String := id <$> .required "message" Decode.text

def record : Record Violation :=
  Violation.mk <$> .required "code" Decode.text <*> .required "rule_id" Decode.text
    <*> .required "severity" decodeSeverity
    <*> .required "location" (Location.record.decode "Location" false)
    <*> .required "message" Decode.text
    <*> .optional "context" none (.option Decode.text)
    <*> .optional "suggestion" none (.option (suggestionRecord.decode "Suggestion" false))

def decode : Decode Violation := record.decode "Violation" false

end Violation
end TreeLint
