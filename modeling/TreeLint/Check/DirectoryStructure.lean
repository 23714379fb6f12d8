import TreeLint.Check.Scope
import TreeLint.Rule.Spec

/-!
Checking that directories hold what they must.
-/
namespace TreeLint.DirectoryStructure

def code : String := "DIR001"

/-- The finding for an entry that is missing, as a file and as a directory. -/
def checkEntry (s : Scope) (dir : ProjectPath) (entry : String) : Option Violation := do
  let path ← dir.joinRelative? entry
  if s.view.isFile path || s.view.isDir path then none
  else
    some { s.violation code (.whole dir) s!"directory is missing required entry `{entry}`"
      with suggestion := some s!"create `{path.display}`" }

def checkDir (d : DirectoryStructure) (s : Scope) (dir : ProjectPath) : List Violation :=
  d.required.filterMap (checkEntry s dir)

/-- The findings in ascending order of directories. -/
def check (d : DirectoryStructure) (s : Scope) : List Violation :=
  (s.dirsOf d.directories).flatMap (d.checkDir s)

end TreeLint.DirectoryStructure
