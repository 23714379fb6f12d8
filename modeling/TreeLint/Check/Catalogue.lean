import TreeLint.Check.DirectoryStructure
import TreeLint.Check.FileContent
import TreeLint.Check.ForbiddenImport
import TreeLint.Check.Layers
import TreeLint.Check.PublicApi
import TreeLint.Check.Relationship

/-!
The kinds of rules that can be checked.
-/
namespace TreeLint

/-- A kind of rules: its name, the codes of its findings, and what it is for. -/
structure RuleKindInfo where
  name : String
  codes : List String
  description : String
deriving DecidableEq, Repr

namespace RuleKindInfo

def all : List RuleKindInfo := [
  ⟨"import-boundary",
    [ImportBoundary.code, ImportBoundary.overlapCode, ImportBoundary.unresolvedCode],
    "Layers may only import from layers they allow"⟩,
  ⟨"public-api", [PublicApi.code], "Modules are imported through their barrel file only"⟩,
  ⟨"relationship", [Relationship.code], "Files require or forbid companion files"⟩,
  ⟨"forbidden-import", [ForbiddenImport.code], "Banned import specifiers or targets"⟩,
  ⟨"file-content", [FileContent.code], "Required or banned file content"⟩,
  ⟨"directory-structure", [DirectoryStructure.code], "Directories contain required entries"⟩]

def find? (name : String) : Option RuleKindInfo := all.find? (·.name = name)

end RuleKindInfo
end TreeLint
