import TreeLint.IgnoreSet
import TreeLint.Import.Edge
import TreeLint.Regex.Program
import TreeLint.Severity
import TreeLint.Template

/-!
Rules that are ready to be checked.
-/
namespace TreeLint

/-- A regular expression, ready to search with, and the text it was read from. -/
structure Expression where
  text : String
  matcher : Regex.Matcher
deriving DecidableEq, Repr

/-- A named layer: the files that belong to it and the other layers it may import from. -/
structure Layer where
  name : String
  membership : Pattern
  allowed : List String
deriving DecidableEq, Repr

/-- Every layer may import from itself. -/
def Layer.mayImport (l : Layer) (target : String) : Bool :=
  l.name = target || l.allowed.contains target

/-- Layers that import from one another only where that is allowed. A file belongs to the first
layer that claims it. -/
structure ImportBoundary where
  layers : List Layer
  extract : Import.Options
  reportUnresolved : Bool
deriving DecidableEq, Repr

/-- Modules that are imported through one file only. -/
structure PublicApi where
  modules : Pattern
  files : Option Pattern
  barrel : String
  allowSameModule : Bool
  extract : Import.Options
deriving DecidableEq, Repr

/-- Files that need, or must not have, certain companions. -/
structure Relationship where
  files : Pattern
  requires : List PathTemplate
  forbids : List PathTemplate
deriving DecidableEq, Repr

/-- Modules that must not be imported, by specifier or by file. -/
structure ForbiddenImport where
  files : Pattern
  deny : List Expression
  denyPaths : List Pattern
  extract : Import.Options
deriving DecidableEq, Repr

/-- What must, or must not, stand somewhere in a file. -/
structure FileContent where
  files : Pattern
  mustMatch : Option Expression
  mustNotMatch : Option Expression
deriving DecidableEq, Repr

/-- What must lie in certain directories. -/
structure DirectoryStructure where
  directories : Pattern
  required : List String
deriving DecidableEq, Repr

inductive RuleKind
  | importBoundary (spec : ImportBoundary)
  | publicApi (spec : PublicApi)
  | relationship (spec : Relationship)
  | forbiddenImport (spec : ForbiddenImport)
  | fileContent (spec : FileContent)
  | directoryStructure (spec : DirectoryStructure)
  | unsupported (kind : String)
deriving DecidableEq, Repr

namespace RuleKind

def name : RuleKind → String
  | .importBoundary _ => "import-boundary"
  | .publicApi _ => "public-api"
  | .relationship _ => "relationship"
  | .forbiddenImport _ => "forbidden-import"
  | .fileContent _ => "file-content"
  | .directoryStructure _ => "directory-structure"
  | .unsupported kind => kind

def isSupported : RuleKind → Bool
  | .unsupported _ => false
  | _ => true

end RuleKind

/-- A rule that is ready to be checked. Nothing is reported for paths in `exclude`. -/
structure RuleSpec where
  id : String
  severity : Severity
  exclude : IgnoreSet
  message : Option String
  kind : RuleKind
deriving DecidableEq, Repr

end TreeLint
