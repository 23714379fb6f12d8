import TreeLint.Check.Scope
import TreeLint.Import.Resolve
import TreeLint.Rule.Spec

/-!
Checking that modules are imported through their barrel file only. A module is a directory; no
module lies in another one.
-/
namespace TreeLint

namespace Pattern

/-- Whether a pattern has nothing but names, save perhaps a wildcard at the end. -/
def isPlain : List PatternSegment → Bool
  | [] => true
  | [.wildcard _] => true
  | .literal _ :: rest => isPlain rest
  | _ => false

/-- The pattern for everything below the matches of `p`. -/
def below (p : Pattern) : Pattern :=
  ⟨p.text ++ "/**", if p.endsRecursive then p.segments else p.segments ++ [.recursive]⟩

/-- The directories above a path other than the root, outermost first. -/
def dirsAbove (path : ProjectPath) : List ProjectPath :=
  (path.ancestors.reverse.filter (!·.isRoot)).filterMap fun dir => ProjectPath.normalize? dir.text

/-- The outermost directory above a file that matches `p`. -/
def outermost? (p : Pattern) (file : ProjectPath) : Option ProjectPath :=
  (dirsAbove file).find? p.isMatch

end Pattern

/-- The directories that are modules, in ascending order. A plain pattern names them; any other
pattern makes a module of the outermost match above each file. -/
def FileView.moduleRoots (view : FileView) (p : Pattern) (ignore : IgnoreSet) : List ProjectPath :=
  if Pattern.isPlain p.segments then view.matchDirs p ignore
  else Ascending.ofList ((view.matchFiles p.below ignore).filterMap p.outermost?)

namespace PublicApi

def code : String := "API001"

/-- The innermost module that a path lies in. -/
def moduleOf? (roots : List ProjectPath) (path : ProjectPath) : Option ProjectPath :=
  (roots.filter fun root => path.startsWith root && root != path).getLast?

/-- Whether a file is the barrel of the module in `root`. An index file always is. -/
def isBarrel (api : PublicApi) (root file : ProjectPath) : Bool :=
  file.parent = root &&
    (file.fileName = api.barrel ||
      Import.sourceExtensions.any fun ext => file.fileName = "index" ++ ext)

/-- Whether `file` may import `target`, a file of the module in `root`. -/
def allows (api : PublicApi) (roots : List ProjectPath) (file root target : ProjectPath) : Bool :=
  (api.allowSameModule && moduleOf? roots file = some root) ||
    api.isBarrel root target || api.isBarrel root file

/-- The finding for one import in a file. -/
def checkEdge (api : PublicApi) (s : Scope) (roots : List ProjectPath) (file : ProjectPath)
    (edge : Import.Edge) : Option Violation := do
  let target ← (Import.resolve s.view edge.specifier file).file?
  let root ← moduleOf? roots target
  if api.allows roots file root target then none
  else
    some { s.violation code (.onLine file edge.line)
        s!"`{edge.specifier}` reaches into module `{root.display}` past its public API"
      with
        context := some s!"resolved to {target.display}"
        suggestion := some s!"import from `{(root.join api.barrel).display}` instead" }

def checkFile (api : PublicApi) (s : Scope) (roots : List ProjectPath) (file : ProjectPath) :
    List Violation :=
  s.inText file fun text => (Import.edges text api.extract).filterMap (api.checkEdge s roots file)

/-- The findings in ascending order of files, and in source order in each. -/
def check (api : PublicApi) (s : Scope) : List Violation :=
  (s.select api.files).flatMap (api.checkFile s (s.view.moduleRoots api.modules s.ignore))

end PublicApi
end TreeLint
