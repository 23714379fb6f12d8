import TreeLint.Check.Scope
import TreeLint.Import.Resolve
import TreeLint.Regex.Search
import TreeLint.Rule.Spec

/-!
Checking that certain modules are not imported. An import is reported once, whatever it matches.
-/
namespace TreeLint

def Expression.isMatch (e : Expression) (text : String) : Bool := e.matcher.isMatch text.toList

namespace ForbiddenImport

def code : String := "IMP001"

/-- Why an import is forbidden: by its specifier, or else by the file it resolves to. -/
def reason? (f : ForbiddenImport) (s : Scope) (file : ProjectPath) (edge : Import.Edge) :
    Option String :=
  match f.deny.find? (·.isMatch edge.specifier) with
  | some e => some s!"matches `{e.text}`"
  | none => do
    let target ← (Import.resolve s.view edge.specifier file).file?
    let pattern ← f.denyPaths.find? (·.isMatch target)
    return s!"resolved to {target.display}, which matches `{pattern.text}`"

/-- The finding for one import in a file. -/
def checkEdge (f : ForbiddenImport) (s : Scope) (file : ProjectPath) (edge : Import.Edge) :
    Option Violation :=
  (f.reason? s file edge).map fun reason =>
    { s.violation code (.onLine file edge.line) s!"import of `{edge.specifier}` is forbidden"
      with context := some reason }

def checkFile (f : ForbiddenImport) (s : Scope) (file : ProjectPath) : List Violation :=
  s.inText file fun text => (Import.edges text f.extract).filterMap (f.checkEdge s file)

/-- The findings in ascending order of files, and in source order in each. -/
def check (f : ForbiddenImport) (s : Scope) : List Violation :=
  (s.filesOf f.files).flatMap (f.checkFile s)

end ForbiddenImport
end TreeLint
