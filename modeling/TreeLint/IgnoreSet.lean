import TreeLint.Pattern

/-!
What a scan leaves out. An entry with a wildcard is a pattern; any other entry leaves out the path
it names and everything below it.
-/
namespace TreeLint

structure IgnoreSet where
  patterns : List Pattern := []
  roots : List ProjectPath := []
deriving DecidableEq, Repr, Inhabited

namespace IgnoreSet

def empty : IgnoreSet := {}

/-- Adds one entry to the set in hand. Plain entries that name the project root, or climb above it,
add nothing. -/
def enter (entry : String) : ExceptT PatternError (StateM IgnoreSet) Unit := do
  if Pattern.isWild entry then
    let pattern ← liftExcept (Pattern.parse entry)
    modify fun s => { s with patterns := s.patterns ++ [pattern] }
  else if let some path := ProjectPath.normalize? entry then
    unless path.isRoot do
      modify fun s => { s with roots := s.roots ++ [path] }

/-- The set with one more entry. -/
def add (s : IgnoreSet) (entry : String) : Except PatternError IgnoreSet :=
  match (enter entry).run.run s with
  | (.ok (), t) => .ok t
  | (.error e, _) => .error e

def ofEntries (entries : List String) : Except PatternError IgnoreSet := entries.foldlM add empty

def addPatterns (s : IgnoreSet) (patterns : List Pattern) : IgnoreSet :=
  { s with patterns := s.patterns ++ patterns }

def union (s t : IgnoreSet) : IgnoreSet := ⟨s.patterns ++ t.patterns, s.roots ++ t.roots⟩

def isEmpty (s : IgnoreSet) : Bool := s.patterns.isEmpty && s.roots.isEmpty

def isIgnored (s : IgnoreSet) (path : ProjectPath) : Bool :=
  s.roots.any path.startsWith || s.patterns.any (·.isMatch path)

/-- Whether everything below `dir` is ignored, so that a walk can pass it by. -/
def prunes (s : IgnoreSet) (dir : ProjectPath) : Bool :=
  s.roots.any dir.startsWith || s.patterns.any fun p => p.endsRecursive && p.isMatch dir

end IgnoreSet
end TreeLint
