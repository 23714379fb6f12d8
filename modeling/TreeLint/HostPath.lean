import TreeLint.Path

/-!
Paths of the host system, slash separated and kept as they were written. Two texts that read as
the same components name the same path.
-/
namespace TreeLint

/-- A path of the host, as written. -/
structure HostPath where
  text : String
deriving DecidableEq, Repr, Inhabited

namespace HostPath

inductive Component
  | root
  | here
  | up
  | name (text : String)
deriving DecidableEq, Repr

def Component.text : Component → String
  | .root => "/"
  | .here => "."
  | .up => ".."
  | .name s => s

def isAbsolute (p : HostPath) : Bool := p.text.toList.head? = some '/'

/-- The texts between the slashes, without the empty text that stands before a leading slash. -/
def pieces (p : HostPath) : List String :=
  let all := (p.text.toList.splitOn '/').map String.ofList
  if p.isAbsolute then all.tail else all

/-- Empty pieces and dots inside a path say nothing. -/
def Component.ofPiece? (piece : String) : Option Component :=
  if piece = "" ∨ piece = "." then none
  else if piece = ".." then some .up
  else some (.name piece)

/-- Whether a relative path starts with a dot. -/
def startsHere (p : HostPath) : Bool := !p.isAbsolute && p.pieces.head? = some "."

/-- A dot counts as a component only where a relative path starts with it. -/
def components (p : HostPath) : List Component :=
  let body := p.pieces.filterMap Component.ofPiece?
  if p.isAbsolute then .root :: body
  else if p.startsHere then .here :: body
  else body

/-- Whether two texts name the same path. -/
def same (p q : HostPath) : Bool := p.components = q.components

/-- Appends `q`, which takes the place of `p` when it is absolute. -/
def join (p q : HostPath) : HostPath :=
  if q.isAbsolute then q
  else if p.text = "" ∨ p.text.toList.getLast? = some '/' then ⟨p.text ++ q.text⟩
  else ⟨p.text ++ "/" ++ q.text⟩

def ofComponents : List Component → HostPath
  | .root :: rest => ⟨"/" ++ "/".intercalate (rest.map Component.text)⟩
  | cs => ⟨"/".intercalate (cs.map Component.text)⟩

/-- Pieces that end a path without naming anything. -/
def isFiller (piece : String) : Bool := piece = "" || piece = "."

/-- The path as written up to its last component, if it has one besides the root. -/
def parent? (p : HostPath) : Option HostPath :=
  match p.pieces.reverse.dropWhile isFiller with
  | [] => if p.startsHere then some ⟨""⟩ else none
  | _ :: before =>
    let kept := (before.dropWhile isFiller).reverse
    let kept := if kept = [] && p.startsHere then ["."] else kept
    some ⟨(if p.isAbsolute then "/" else "") ++ "/".intercalate kept⟩

/-- The last component, when it is a name. -/
def fileName? (p : HostPath) : Option String :=
  match p.components.getLast? with
  | some (.name s) => some s
  | _ => none

/-- What follows the last dot of the file name, where something precedes that dot. -/
def extension? (p : HostPath) : Option String := do
  let name ← p.fileName?
  let reversed := name.toList.reverse
  let tail := reversed.takeWhile (· ≠ '.')
  match reversed.drop (tail.length + 1) with
  | [] => none
  | _ => some (String.ofList tail.reverse)

/-- One component of a normal form, kept as the reversed list of the components before it. A climb
takes the last component off; where only the root or nothing is left it stays as a component. -/
def normalizeStep (stack : List Component) : Component → List Component
  | .here => stack
  | .up =>
    match stack with
    | [] | [.root] => .up :: stack
    | _ :: below => below
  | c => c :: stack

/-- The normal form, found without looking at any disk. -/
def normalize (p : HostPath) : HostPath :=
  ofComponents (p.components.foldl normalizeStep []).reverse

/-- What is left of `cs` after the components `start`. -/
def stripComponents? : List Component → List Component → Option (List Component)
  | cs, [] => some cs
  | c :: cs, s :: start => if c = s then stripComponents? cs start else none
  | [], _ :: _ => none

end HostPath

/-- The project path of a host path that lies at or below `root`. -/
def ProjectPath.ofHost? (p root : HostPath) : Option ProjectPath := do
  let rest ← HostPath.stripComponents? p.components root.components
  ProjectPath.normalize? (HostPath.ofComponents rest).text

end TreeLint
