import TreeLint.Ascending
import TreeLint.FileView
import TreeLint.HostPath

/-!
A disk as it stands at one moment: directories, files and symbolic links. Paths are followed piece
by piece, so that `..` leads out of the directory that a link has led into.
-/
namespace TreeLint

/-- What lies at a place. A file whose bytes are not UTF-8 has no text. -/
inductive DiskNode
  | dir (entries : List (String × DiskNode))
  | file (text : Option String)
  | link (target : String)
deriving Inhabited

namespace DiskNode

def emptyDir : DiskNode := .dir []

def isDir : DiskNode → Bool
  | .dir _ => true
  | _ => false

/-- What a directory lists. Nothing else lists anything. -/
def entries : DiskNode → List (String × DiskNode)
  | .dir es => es
  | _ => []

/-- Changes what lies below a node, and makes the directories on the way. -/
def alter (f : Option DiskNode → DiskNode) : List String → Option DiskNode → DiskNode
  | [], old => f old
  | name :: rest, old =>
    let es := (old.getD emptyDir).entries
    .dir (Ascending.put name (alter f rest (Ascending.find? name es)) es)

mutual

/-- The number of directories that lie in one another. -/
def depth : DiskNode → Nat
  | .dir es => depthOfAll es + 1
  | _ => 0

def depthOfAll : List (String × DiskNode) → Nat
  | [] => 0
  | (_, n) :: rest => max n.depth (depthOfAll rest)

end

mutual

/-- The number of entries below a node. -/
def size : DiskNode → Nat
  | .dir es => sizeOfAll es
  | _ => 0

def sizeOfAll : List (String × DiskNode) → Nat
  | [] => 0
  | (_, n) :: rest => 1 + n.size + sizeOfAll rest

end

end DiskNode

/-- Why a path leads nowhere: nothing lies there, or something stands in the way. -/
inductive DiskFault
  | missing
  | blocked
deriving DecidableEq, Repr

/-- A place that a path leads to, with the names and the nodes on the way back to the top. -/
structure DiskPlace where
  node : DiskNode
  names : List String := []
  above : List DiskNode := []

namespace DiskPlace

def up (p : DiskPlace) : DiskPlace :=
  match p.above with
  | [] => p
  | node :: above => ⟨node, p.names.tail, above⟩

def down (p : DiskPlace) (name : String) (node : DiskNode) : DiskPlace :=
  ⟨node, name :: p.names, p.node :: p.above⟩

/-- The path of the place without any link in it. -/
def path (p : DiskPlace) : HostPath := ⟨"/" ++ "/".intercalate p.names.reverse⟩

end DiskPlace

/-- A disk, by the directory at its top. -/
structure Disk where
  top : DiskNode := .emptyDir

namespace Disk

/-- No path may lead through more links than this. -/
def maxLinks : Nat := 40

/-- No name has more bytes than this. -/
def maxNameBytes : Nat := 255

/-- No path that is asked for has more bytes than this. -/
def maxPathBytes : Nat := 4095

def pieces (text : String) : List String := (text.toList.splitOn '/').map String.ofList

/-- Follows pieces of a path from a place. Whatever a piece follows has to be a directory. -/
def follow (d : Disk) (links : Nat) (place : DiskPlace) (way : List String) :
    Except DiskFault DiskPlace :=
  match way with
  | [] => .ok place
  | piece :: rest =>
    if !place.node.isDir then .error .blocked
    else if piece = "" ∨ piece = "." then d.follow links place rest
    else if piece = ".." then d.follow links place.up rest
    else
      match Ascending.find? piece place.node.entries with
      | none => .error (if piece.utf8ByteSize > maxNameBytes then .blocked else .missing)
      | some (.link target) =>
        match links with
        | 0 => .error .blocked
        | n + 1 =>
          d.follow n (if target.toList.head? = some '/' then ⟨d.top, [], []⟩ else place)
            (pieces target ++ rest)
      | some node => d.follow links (place.down piece node) rest
termination_by (links, way.length)

/-- The place that a path leads to from the top. The empty path leads nowhere. -/
def place (d : Disk) (p : HostPath) : Except DiskFault DiskPlace :=
  if p.text = "" then .error .missing
  else if p.text.toList.contains '\x00' ∨ p.text.utf8ByteSize > maxPathBytes then .error .blocked
  else d.follow maxLinks ⟨d.top, [], []⟩ (pieces p.text)

def node? (d : Disk) (p : HostPath) : Option DiskNode := (d.place p).toOption.map (·.node)

def isFile (d : Disk) (p : HostPath) : Bool :=
  match d.node? p with
  | some (.file _) => true
  | _ => false

def isDir (d : Disk) (p : HostPath) : Bool := (d.node? p).any DiskNode.isDir

/-- The text of a file. What is no file, or no text, blocks the way. -/
def read (d : Disk) (p : HostPath) : Except DiskFault String := do
  match (← d.place p).node with
  | .file (some text) => return text
  | _ => throw .blocked

/-- An entry as it is listed. A link counts as the file it leads to; links to directories, and
links that lead nowhere, are not listed. -/
def listed? (d : Disk) (dir : HostPath) (name : String) : DiskNode → Option DirEntry
  | .link _ =>
    match d.node? (dir.join ⟨name⟩) with
    | some node => if node.isDir then none else some ⟨name, false⟩
    | none => none
  | node => some ⟨name, node.isDir⟩

/-- Lists a directory by name. -/
def list (d : Disk) (p : HostPath) : List DirEntry :=
  match d.node? p with
  | some node => node.entries.filterMap fun (name, node) => d.listed? p name node
  | none => []

/-- The project in `root`. -/
def view (d : Disk) (root : HostPath) : FileView :=
  let locate (p : ProjectPath) : HostPath :=
    p.segments.foldl (fun path name => path.join ⟨name⟩) root
  { entries := fun p => d.list (locate p)
    text? := fun p => (d.read (locate p)).toOption
    isFile := fun p => d.isFile (locate p)
    isDir := fun p => d.isDir (locate p)
    depth := d.top.depth }

/-- Puts a node at a path, in place of what lay there. -/
def put (d : Disk) (p : HostPath) (node : DiskNode) : Disk :=
  ⟨DiskNode.alter (fun _ => node) ((pieces p.text).filter (· ≠ "")) (some d.top)⟩

/-- Makes a directory at a path, unless there is one. -/
def makeDir (d : Disk) (p : HostPath) : Disk :=
  ⟨DiskNode.alter (fun old => .dir (old.getD .emptyDir).entries)
    ((pieces p.text).filter (· ≠ "")) (some d.top)⟩

end Disk
end TreeLint
