import TreeLint.Check.Scope
import TreeLint.Rule.Spec

/-!
Checking that files have the companions they need, and none that they must not have.
-/
namespace TreeLint.Relationship

def code : String := "REL001"

/-- The finding for a companion that `file` needs. A path above the root is no companion. -/
def checkRequired (s : Scope) (file : ProjectPath) (t : PathTemplate) : Option Violation := do
  let companion ← t.expand? file
  if s.view.isFile companion then none
  else
    some { s.violation code (.whole file) s!"missing required file `{companion.display}`"
      with
        context := some s!"required by `{t.text}`"
        suggestion := some s!"create `{companion.display}`" }

/-- The finding for a companion that `file` must not have. No file is its own companion. -/
def checkForbidden (s : Scope) (file : ProjectPath) (t : PathTemplate) : Option Violation := do
  let companion ← t.expand? file
  if companion ≠ file ∧ s.view.isFile companion then
    some { s.violation code (.whole file)
        s!"`{companion.display}` must not exist alongside this file"
      with context := some s!"forbidden by `{t.text}`" }
  else none

def checkFile (r : Relationship) (s : Scope) (file : ProjectPath) : List Violation :=
  r.requires.filterMap (checkRequired s file) ++ r.forbids.filterMap (checkForbidden s file)

/-- The findings in ascending order of files. -/
def check (r : Relationship) (s : Scope) : List Violation :=
  (s.filesOf r.files).flatMap (r.checkFile s)

end TreeLint.Relationship
