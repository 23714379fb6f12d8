/-!
How grave a finding is.
-/
namespace TreeLint

inductive Severity
  | info
  | warning
  | error
deriving DecidableEq, Repr, Inhabited

namespace Severity

/-- Graver severities rank higher. -/
def rank : Severity → Nat
  | .info => 0
  | .warning => 1
  | .error => 2

instance : Ord Severity := ⟨fun a b => compare a.rank b.rank⟩

instance : LE Severity := ⟨fun a b => a.rank ≤ b.rank⟩

instance : DecidableLE Severity := fun a b => inferInstanceAs (Decidable (a.rank ≤ b.rank))

/-- The milder of two severities. -/
def mildest (a b : Severity) : Severity := if a ≤ b then a else b

def name : Severity → String
  | .info => "info"
  | .warning => "warning"
  | .error => "error"

/-- Reads a severity. A warning has a short name too. -/
def ofName? : String → Option Severity
  | "error" => some .error
  | "warning" | "warn" => some .warning
  | "info" => some .info
  | _ => none

/-- What is said about a text that is no severity. -/
def unknownMessage (text : String) : String :=
  s!"unknown severity `{text}`, expected: error, warning, info"

end Severity
end TreeLint
