import TreeLint.Config.Document

/-!
Documents laid over one another. Single values and lists replace the earlier ones, tables are
joined key by key, and a rule takes the place of the earlier rule with its id.
-/
namespace TreeLint

/-- A rule with the name of the document that declares it. -/
structure OriginRule where
  rule : RuleDocument
  origin : String
deriving Repr, Inhabited

/-- What some documents say together. -/
structure Merged where
  version : Nat := 0
  included : List String := []
  excluded : List String := []
  tools : List (String × Value) := []
  integrations : List (String × Value) := []
  rules : List OriginRule := []
deriving Repr, Inhabited

namespace Merged

def putAll (entries table : List (String × Value)) : List (String × Value) :=
  entries.foldl (fun table (k, v) => Ascending.put k v table) table

/-- Puts a rule in the place of the one with its id. Rules without an id are always new. -/
def putRule (new : OriginRule) : List OriginRule → List OriginRule
  | [] => [new]
  | old :: rest =>
    if new.rule.id ≠ "" ∧ old.rule.id = new.rule.id then new :: rest else old :: putRule new rest

/-- Lays one document over the others. -/
def apply (m : Merged) (d : Document) (origin : String) : Merged where
  version := d.version.getD m.version
  included := d.included.getD m.included
  excluded := d.excluded.getD m.excluded
  tools := putAll (d.tools.getD []) m.tools
  integrations := putAll (d.integrations.getD []) m.integrations
  rules := d.customRules.foldl (fun rules rule => putRule ⟨rule, origin⟩ rules) m.rules

/-- Leaves out the rules that are disabled where they are declared last. -/
def withoutDisabled (m : Merged) : Merged :=
  { m with rules := m.rules.filter fun r => !r.rule.disabled }

/-- Lays documents over one another, from the first to the last. -/
def ofDocuments (documents : List (Document × String)) : Merged :=
  (documents.foldl (fun (m : Merged) (d, origin) => m.apply d origin) {}).withoutDisabled

end Merged
end TreeLint
