import TreeLint.Check.DirectoryStructure
import TreeLint.Check.FileContent
import TreeLint.Check.ForbiddenImport
import TreeLint.Check.Layers
import TreeLint.Check.PublicApi
import TreeLint.Check.Relationship
import TreeLint.Config.Effective
import TreeLint.Run.Report

/-!
Running every rule of a configuration. Each rule is run by itself; a rule that does not compile is
reported as a finding of its own.
-/
namespace TreeLint

/-- The findings of a rule of any kind. -/
def RuleKind.check : RuleKind → Scope → List Violation
  | .importBoundary b, s => b.check s
  | .publicApi api, s => api.check s
  | .relationship r, s => r.check s
  | .forbiddenImport f, s => f.check s
  | .fileContent c, s => c.check s
  | .directoryStructure d, s => d.check s
  | .unsupported _, _ => []

/-- What a rule is checked against in a run. -/
def RuleSpec.scope (spec : RuleSpec) (c : Configuration) (view : FileView) : Scope where
  ruleId := spec.id
  severity := spec.severity
  message := spec.message
  view
  ignore := c.ignore.union spec.exclude
  included := c.included

/-- What comes of one rule in a run. -/
inductive Outcome
  | ran (violations : List Violation)
  | skipped (id : String)
deriving DecidableEq, Repr

namespace Outcome

def violations : Outcome → List Violation
  | .ran vs => vs
  | .skipped _ => []

def skipped? : Outcome → Option String
  | .ran _ => none
  | .skipped id => some id

def isRun : Outcome → Bool
  | .ran _ => true
  | .skipped _ => false

end Outcome

namespace ConfiguredRule

def misconfiguredCode : String := "CONFIG001"

/-- What a rule without an id is called in findings. -/
def unnamed : String := "<unnamed>"

/-- The finding for a rule that does not compile. -/
def misconfigured (r : ConfiguredRule) (error : RuleError) : Violation where
  code := misconfiguredCode
  ruleId := if r.document.id = "" then unnamed else r.document.id
  severity := .error
  location := ⟨r.file.getD .root, none, none⟩
  message := error.message
  context := some s!"declared in {r.origin}"
  suggestion := some "fix the rule or set `disabled = true` on it"

def run (r : ConfiguredRule) (c : Configuration) (view : FileView) : Outcome :=
  match r.compiled with
  | .error e => .ran [r.misconfigured e]
  | .ok spec =>
    if spec.kind.isSupported then .ran (spec.kind.check (spec.scope c view)) else .skipped spec.id

/-- What is told about a rule while it runs. -/
def trace (r : ConfiguredRule) (c : Configuration) (view : FileView) : List String :=
  match r.compiled with
  | .error e => [s!"[{r.document.id}] configuration error: {e.message}"]
  | .ok spec =>
    if spec.kind.isSupported then
      [s!"[{spec.id}] running {spec.kind.name} rule",
        s!"[{spec.id}] {(spec.kind.check (spec.scope c view)).length} violation(s)"]
    else [s!"[{spec.id}] skipped: unsupported kind `{spec.kind.name}`"]

end ConfiguredRule

namespace Configuration

def outcomes (c : Configuration) (view : FileView) : List Outcome :=
  c.rules.map fun r => r.run c view

/-- Runs all rules on a tree. -/
def run (c : Configuration) (view : FileView) : Report :=
  let outcomes := c.outcomes view
  { violations := Report.sorted (outcomes.flatMap Outcome.violations)
    rulesRun := (outcomes.filter Outcome.isRun).length
    skipped := outcomes.filterMap Outcome.skipped? }

/-- What is told about all rules, one after another. -/
def trace (c : Configuration) (view : FileView) : List String :=
  c.rules.flatMap fun r => r.trace c view

end Configuration
end TreeLint
