import TreeLint.Violation
import TreeLint.Walk

/-!
What one rule is checked against, and the findings that it makes there.
-/
namespace TreeLint

/-- A tree as one rule sees it. Files in `included` are looked at by rules that name none. -/
structure Scope where
  ruleId : String
  severity : Severity
  message : Option String
  view : FileView
  ignore : IgnoreSet
  included : List Pattern

namespace Scope

/-- The message of the rule stands before each finding's own. -/
def violationAt (s : Scope) (severity : Severity) (code : String) (location : Location)
    (text : String) : Violation where
  code
  ruleId := s.ruleId
  severity
  location
  message :=
    match s.message with
    | some m => s!"{m}: {text}"
    | none => text

/-- A finding as grave as the rule says. -/
def violation (s : Scope) : String → Location → String → Violation := s.violationAt s.severity

/-- A finding that is never graver than a warning. -/
def warning (s : Scope) : String → Location → String → Violation :=
  s.violationAt (s.severity.mildest .warning)

/-- The files that match a pattern. -/
def filesOf (s : Scope) (pattern : Pattern) : List ProjectPath := s.view.matchFiles pattern s.ignore

/-- The directories that match a pattern. -/
def dirsOf (s : Scope) (pattern : Pattern) : List ProjectPath := s.view.matchDirs pattern s.ignore

/-- The files that match a pattern, or all that are included when there is none. -/
def select (s : Scope) : Option Pattern → List ProjectPath
  | some pattern => s.filesOf pattern
  | none => Ascending.ofList (s.included.flatMap s.filesOf)

/-- The findings in the text of a file. A file that cannot be read has none. -/
def inText (s : Scope) (file : ProjectPath) (f : String → List Violation) : List Violation :=
  match s.view.text? file with
  | some text => f text
  | none => []

end Scope

/-- A place in a file. -/
def Location.onLine (file : ProjectPath) (line : Nat) : Location := ⟨file, some line, none⟩

/-- A file as a whole. -/
def Location.whole (file : ProjectPath) : Location := ⟨file, none, none⟩

end TreeLint
