import TreeLint.Path

/-!
A read-only view of a project tree. Everything that looks at files goes through it; what cannot be
read looks empty or absent.
-/
namespace TreeLint

/-- One entry of a directory listing. -/
structure DirEntry where
  name : String
  isDir : Bool
deriving DecidableEq, Repr

/-- What can be asked of a project tree. No listing leads down more than `depth` levels. -/
structure FileView where
  entries : ProjectPath → List DirEntry
  text? : ProjectPath → Option String
  isFile : ProjectPath → Bool
  isDir : ProjectPath → Bool
  depth : Nat

namespace FileView

/-- The directories listed in `dir`. -/
def subdirs (view : FileView) (dir : ProjectPath) : List ProjectPath :=
  ((view.entries dir).filter (·.isDir)).map fun e => dir.join e.name

/-- The files listed in `dir`. -/
def files (view : FileView) (dir : ProjectPath) : List ProjectPath :=
  ((view.entries dir).filter (!·.isDir)).map fun e => dir.join e.name

end FileView
end TreeLint
