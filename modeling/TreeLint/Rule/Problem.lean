import TreeLint.Rule.Compile

/-!
What is wrong with the rules of a configuration, found without looking at any file. Disabled rules
are only looked at for ids that are given twice.
-/
namespace TreeLint

inductive ProblemCause
  | duplicateId
  | unsupported (kind : String)
  | broken (error : RuleError)

def ProblemCause.message : ProblemCause → String
  | .duplicateId => "duplicate id"
  | .unsupported kind => s!"unsupported kind `{kind}`"
  | .broken error => error.message

/-- What is wrong with the rule at a position. -/
structure RuleProblem where
  position : Nat
  id : String
  cause : ProblemCause

namespace RuleProblem

/-- A rule without an id is called by its position. -/
def label (p : RuleProblem) : String :=
  if p.id = "" then s!"rules.custom[{p.position}]" else s!"rule `{p.id}`"

def message (p : RuleProblem) : String := s!"{p.label}: {p.cause.message}"

end RuleProblem

namespace RuleDocument

variable [Explanations]

/-- What keeps a rule from being checked. -/
def fault? (r : RuleDocument) : Option ProblemCause :=
  if r.disabled then none
  else
    match RuleSpec.compile r with
    | .error e => some (.broken e)
    | .ok spec => if spec.kind.isSupported then none else some (.unsupported spec.kind.name)

/-- The problems of a rule that stands at a position after rules with the ids `seen`. -/
def problems (seen : List String) (r : RuleDocument) (position : Nat) : List RuleProblem :=
  ((if r.id ≠ "" ∧ r.id ∈ seen then [ProblemCause.duplicateId] else []) ++ r.fault?.toList).map
    (⟨position, r.id, ·⟩)

/-- The problems of rules that stand after rules with the ids `seen`, from a position on. -/
def problemsFrom (seen : List String) (position : Nat) : List RuleDocument → List RuleProblem
  | [] => []
  | r :: rest => r.problems seen position ++ problemsFrom (r.id :: seen) (position + 1) rest

/-- All problems of some rules, in the order of the rules. -/
def allProblems (rules : List RuleDocument) : List RuleProblem := problemsFrom [] 0 rules

end RuleDocument
end TreeLint
