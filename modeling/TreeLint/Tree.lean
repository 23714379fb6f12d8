import TreeLint.Ascending
import TreeLint.FileView

/-!
A project tree held in memory. A file put at a path brings every directory above it into being.
-/
namespace TreeLint

/-- The files of a project with their texts, and the directories these lie in. -/
structure Tree where
  files : List (ProjectPath × String) := []
  dirs : List ProjectPath := []
deriving DecidableEq, Repr, Inhabited

namespace Tree

def empty : Tree := {}

/-- Adds a file or replaces its text. A path that climbs above the root is passed over. -/
def insert (t : Tree) (path text : String) : Tree :=
  match ProjectPath.normalize? path with
  | none => t
  | some p =>
    { files := Ascending.put p text t.files
      dirs := p.ancestors.foldl (fun dirs d => Ascending.insert d dirs) t.dirs }

def ofList (files : List (String × String)) : Tree :=
  files.foldl (fun t (path, text) => t.insert path text) empty

def isDir (t : Tree) (p : ProjectPath) : Bool := t.dirs.contains p

def text? (t : Tree) (p : ProjectPath) : Option String := Ascending.find? p t.files

def isFile (t : Tree) (p : ProjectPath) : Bool := (t.text? p).isSome

/-- Every path but the root, in ascending order: the directory it lies in and its entry there. A
path that is both file and directory is listed as a directory. -/
def listing (t : Tree) : List (ProjectPath × DirEntry) :=
  let paths := Ascending.ofList ((t.files.map (·.1) ++ t.dirs).filter (!·.isRoot))
  paths.map fun p => (p.parent, ⟨p.fileName, t.isDir p⟩)

/-- No file has more segments than this. -/
def depth (t : Tree) : Nat := (t.files.map fun (p, _) => p.segments.length).foldr max 0

def view (t : Tree) : FileView :=
  let listing := t.listing
  { entries := fun dir =>
      if t.isDir dir then (listing.filter (·.1 = dir)).map (·.2) else []
    text? := t.text?
    isFile := t.isFile
    isDir := t.isDir
    depth := t.depth }

end Tree
end TreeLint
