import TreeLint.Ascending
import TreeLint.Violation

/-!
What a run has found.
-/
namespace TreeLint

/-- The order of findings in reports: by file, rule, line, column and code. What has no line stands
before what has one. -/
def Violation.order (a b : Violation) : Ordering :=
  (compare a.location.file.text b.location.file.text).then <|
    (compare a.ruleId b.ruleId).then <|
    (compare a.location.line b.location.line).then <|
    (compare a.location.column b.location.column).then <|
    compare a.code b.code

/-- The findings of a run, in order. `skipped` are the ids of rules that nothing can check. -/
structure Report where
  violations : List Violation := []
  rulesRun : Nat := 0
  skipped : List String := []
deriving DecidableEq, Repr, Inhabited

namespace Report

/-- Puts findings in order. Those that the order does not tell apart stay as they are. -/
def sorted (violations : List Violation) : List Violation :=
  violations.mergeSort fun a b => (a.order b).isLE

/-- The findings of each rule that has some, by ascending ids. -/
def byRule (r : Report) : List (String × List Violation) :=
  (Ascending.ofList (r.violations.map (·.ruleId))).map fun id =>
    (id, r.violations.filter (·.ruleId = id))

def isClean (r : Report) : Bool := r.violations.isEmpty

/-- The number of findings of one severity. -/
def count (r : Report) (severity : Severity) : Nat :=
  (r.violations.filter (·.severity = severity)).length

/-- Whether some finding is as grave as `threshold`. -/
def hasAtLeast (r : Report) (threshold : Severity) : Bool :=
  r.violations.any (threshold ≤ ·.severity)

/-- The number of files with findings. -/
def filesAffected (r : Report) : Nat :=
  (Ascending.ofList (r.violations.map (·.location.file))).length

def toDoc (r : Report) : Json.Doc :=
  .object [("violations", .array (r.violations.map Violation.toDoc)),
    ("by_rule", .object (r.byRule.map fun (id, vs) => (id, .array (vs.map Violation.toDoc)))),
    ("rules_run", .nat r.rulesRun),
    ("rules_skipped", .strings r.skipped)]

end Report
end TreeLint
