import TreeLint.Check.Scope
import TreeLint.Import.Resolve
import TreeLint.Rule.Spec

/-!
Checking that layers import from one another only where they may. A file that several layers claim
belongs to the first of them.
-/
namespace TreeLint

/-- A layer with the files that it claims. -/
structure LayerFiles where
  layer : Layer
  files : List ProjectPath

namespace LayerFiles

/-- The layers that claim a file, as they are declared. -/
def claimants (layers : List LayerFiles) (file : ProjectPath) : List Layer :=
  (layers.filter (·.files.contains file)).map (·.layer)

/-- The layer that a file belongs to. -/
def owner? (layers : List LayerFiles) (file : ProjectPath) : Option Layer :=
  (claimants layers file).head?

/-- All files that belong to a layer, in ascending order. -/
def all (layers : List LayerFiles) : List ProjectPath :=
  Ascending.ofList (layers.flatMap (·.files))

end LayerFiles

/-- Names in backquotes, with commas between them. -/
def quotedNames (names : List String) : String :=
  ", ".intercalate (names.map fun n => s!"`{n}`")

/-- What a layer may import from, in words. -/
def Layer.permission (l : Layer) : String :=
  if l.allowed.isEmpty then "it may only import from itself"
  else s!"allowed: {quotedNames l.allowed}"

namespace ImportBoundary

def code : String := "LAYER001"

def overlapCode : String := "LAYER002"

def unresolvedCode : String := "LAYER003"

/-- The first layer with a pattern that matches. -/
def owningLayer? (b : ImportBoundary) (file : ProjectPath) : Option Layer :=
  b.layers.find? (·.membership.isMatch file)

def layerFiles (b : ImportBoundary) (s : Scope) : List LayerFiles :=
  b.layers.map fun l => ⟨l, s.filesOf l.membership⟩

/-- The finding for a file that more than one layer claims. -/
def overlap (s : Scope) (layers : List LayerFiles) (file : ProjectPath) : Option Violation :=
  match (LayerFiles.claimants layers file).map (·.name) with
  | first :: second :: rest =>
    some { s.warning overlapCode (.whole file)
        s!"file is claimed by layers {quotedNames (first :: second :: rest)}; it belongs to `{first}`"
      with suggestion :=
        some "narrow the layer patterns so each file belongs to exactly one layer" }
  | _ => none

/-- The finding for an import of `target`, a file of the layer `other`, in a file of `layer`. -/
def crossing (s : Scope) (file : ProjectPath) (edge : Import.Edge) (layer other : Layer)
    (target : ProjectPath) : Violation :=
  { s.violation code (.onLine file edge.line)
      (s!"layer `{layer.name}` must not import from layer `{other.name}` (`{edge.specifier}`); " ++
        layer.permission)
    with
      context := some s!"resolved to {target.display}"
      suggestion := some
        (s!"move the shared code into a layer `{layer.name}` may depend on, " ++
          s!"or allow `{other.name}` in its configuration") }

/-- The finding for one import in a file of `layer`. -/
def checkEdge (b : ImportBoundary) (s : Scope) (layers : List LayerFiles) (layer : Layer)
    (file : ProjectPath) (edge : Import.Edge) : Option Violation :=
  match Import.resolve s.view edge.specifier file with
  | .external => none
  | .unresolved =>
    if b.reportUnresolved then
      some (s.warning unresolvedCode (.onLine file edge.line)
        s!"import `{edge.specifier}` does not resolve to a file")
    else none
  | .file target =>
    match LayerFiles.owner? layers target with
    | none => none
    | some other =>
      if layer.mayImport other.name then none else some (crossing s file edge layer other target)

/-- The findings in a file, in source order. -/
def checkFile (b : ImportBoundary) (s : Scope) (layers : List LayerFiles) (file : ProjectPath) :
    List Violation :=
  match LayerFiles.owner? layers file with
  | none => []
  | some layer =>
    s.inText file fun text =>
      (Import.edges text b.extract).filterMap (b.checkEdge s layers layer file)

/-- Overlaps come first, and then what is found in the files, each in ascending order of files. -/
def check (b : ImportBoundary) (s : Scope) : List Violation :=
  let layers := b.layerFiles s
  let files := LayerFiles.all layers
  files.filterMap (overlap s layers) ++ files.flatMap (b.checkFile s layers)

end ImportBoundary
end TreeLint
