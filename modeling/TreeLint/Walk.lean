import TreeLint.Ascending
import TreeLint.FileView
import TreeLint.IgnoreSet

/-!
Finding the files and directories of a tree that match a pattern. Directories in which everything
is ignored are never entered.
-/
namespace TreeLint

namespace FileView

/-- `found` and what lies up to `n` levels below `front`, no directory entered twice. What `ignore`
prunes is left out. -/
def reach (view : FileView) (ignore : IgnoreSet) :
    Nat → List ProjectPath → List ProjectPath → List ProjectPath
  | 0, found, _ => found
  | n + 1, found, front =>
    let fresh := (front.flatMap view.subdirs).filter fun d =>
      !found.contains d && !ignore.prunes d
    reach view ignore n (found ++ fresh) fresh

/-- The directories `dirs` and the unpruned ones at any level below them. -/
def dirsFrom (view : FileView) (ignore : IgnoreSet) (dirs : List ProjectPath) :
    List ProjectPath :=
  view.reach ignore view.depth dirs dirs

/-- The directories in `dir` whose names fit a segment. -/
def matchingDirs (view : FileView) (segment : PatternSegment) (dir : ProjectPath) :
    List ProjectPath :=
  ((view.entries dir).filter fun e => e.isDir && segment.matchesName e.name).map (dir.join ·.name)

/-- The files in `dir` whose names fit a segment. -/
def matchingFiles (view : FileView) (segment : PatternSegment) (dir : ProjectPath) :
    List ProjectPath :=
  ((view.entries dir).filter fun e => !e.isDir && segment.matchesName e.name).map (dir.join ·.name)

/-- The directories that one segment leads to from any of `dirs`. -/
def step (view : FileView) (ignore : IgnoreSet) (dirs : List ProjectPath) :
    PatternSegment → List ProjectPath
  | .recursive => view.dirsFrom ignore dirs
  | segment => (dirs.flatMap (view.matchingDirs segment)).filter (!ignore.prunes ·)

/-- The files that the segments select from any of `dirs`. -/
def walkFiles (view : FileView) (ignore : IgnoreSet) :
    List PatternSegment → List ProjectPath → List ProjectPath
  | [], _ => []
  | [.recursive], dirs => (view.dirsFrom ignore dirs).flatMap view.files
  | [segment], dirs => dirs.flatMap (view.matchingFiles segment)
  | segment :: rest, dirs => walkFiles view ignore rest (view.step ignore dirs segment)

/-- The directories that the segments select from any of `dirs`. The root is never selected. -/
def walkDirs (view : FileView) (ignore : IgnoreSet) (segments : List PatternSegment)
    (dirs : List ProjectPath) : List ProjectPath :=
  (segments.foldl (view.step ignore) dirs).filter (!·.isRoot)

/-- The files that match a pattern and are not ignored, in ascending order. -/
def matchFiles (view : FileView) (pattern : Pattern) (ignore : IgnoreSet) : List ProjectPath :=
  (Ascending.ofList (view.walkFiles ignore pattern.segments [.root])).filter (!ignore.isIgnored ·)

/-- The directories that match a pattern and are not ignored, in ascending order. -/
def matchDirs (view : FileView) (pattern : Pattern) (ignore : IgnoreSet) : List ProjectPath :=
  (Ascending.ofList (view.walkDirs ignore pattern.segments [.root])).filter (!ignore.isIgnored ·)

end FileView
end TreeLint
