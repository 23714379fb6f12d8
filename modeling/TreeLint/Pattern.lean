import TreeLint.Path
import TreeLint.Glob

/-!
Path patterns: segments divided by slashes, each a name, a glob for one name, or `**` for any
number of directory levels.
-/
namespace TreeLint

inductive PatternSegment
  | literal (name : String)
  | wildcard (glob : Glob)
  | recursive
deriving DecidableEq, Repr

/-- Why a text is no pattern. -/
inductive PatternError
  | invalidGlob (pattern : String) (error : GlobError)
  | outsideRoot (pattern : String)
deriving DecidableEq, Repr

def PatternError.message : PatternError → String
  | .invalidGlob pattern error => s!"invalid glob pattern `{pattern}`: {error.message}"
  | .outsideRoot pattern => s!"pattern `{pattern}` must not climb above the project root"

/-- A compiled pattern with the text it was read from. -/
structure Pattern where
  text : String
  segments : List PatternSegment
deriving DecidableEq, Repr

namespace PatternSegment

def matchesName (segment : PatternSegment) (name : String) : Bool :=
  match segment with
  | .literal s => s = name
  | .wildcard glob => glob.isMatch name
  | .recursive => true

/-- Whether the segments account for a whole path. -/
def matchPath : List PatternSegment → List String → Bool
  | [] => List.isEmpty
  | .recursive :: rest => someSuffix (matchPath rest)
  | segment :: rest => startsWithOne segment.matchesName (matchPath rest)

/-- For each suffix of a path: whether the segments account for it. -/
def matchRow (names : List String) : List PatternSegment → List Bool
  | [] => rowOf List.isEmpty names
  | .recursive :: rest => someRow (matchRow names rest)
  | segment :: rest => oneRow segment.matchesName names (matchRow names rest)

theorem matchRow_eq (names : List String) (segments : List PatternSegment) :
    matchRow names segments = rowOf (matchPath segments) names := by
  induction segments with
  | nil => rfl
  | cons segment rest ih =>
    cases segment <;> simp [matchRow, matchPath, ih, someRow_rowOf, oneRow_rowOf]

end PatternSegment

namespace Pattern

/-- Whether a text needs a glob to say what it stands for. -/
def isWild (text : String) : Bool := text.toList.any fun c => c = '*' || c = '?' || c = '['

/-- The segment of one part of the pattern `whole`. -/
def segment (whole part : String) : Except PatternError PatternSegment :=
  if part = ".." then .error (.outsideRoot whole)
  else if part = "**" then .ok .recursive
  else if isWild part then
    match Glob.parse part with
    | .ok glob => .ok (.wildcard glob)
    | .error e => .error (.invalidGlob whole e)
  else .ok (.literal part)

/-- The parts between slashes that say something. -/
def parts (text : String) : List String :=
  ((text.toList.splitOn '/').map String.ofList).filter fun part => part ≠ "" && part ≠ "."

/-- Puts a segment in front; of several `**` in a row one is kept. -/
def push (segment : PatternSegment) (rest : List PatternSegment) : List PatternSegment :=
  if segment = .recursive && rest.head? = some .recursive then rest else segment :: rest

/-- Reads a pattern. The first part that is wrong decides the error. -/
def parse (text : String) : Except PatternError Pattern := do
  let segments ← (parts text).mapM (segment text)
  return ⟨text, segments.foldr push []⟩

/-- A pattern without segments matches nothing. -/
def isEmpty (p : Pattern) : Bool := p.segments.isEmpty

def hasWildcard (p : Pattern) : Bool :=
  p.segments.any fun
    | .literal _ => false
    | _ => true

/-- The names that a pattern starts with. -/
def literalNames : List PatternSegment → List String
  | .literal name :: rest => name :: literalNames rest
  | _ => []

/-- The directory that every match lies at or below. -/
def literalStart (p : Pattern) : ProjectPath :=
  (literalNames p.segments).foldl ProjectPath.join ProjectPath.root

def isMatch (p : Pattern) (path : ProjectPath) : Bool :=
  !p.isEmpty && (PatternSegment.matchRow path.segments p.segments).headD false

theorem isMatch_eq_matchPath (p : Pattern) (path : ProjectPath) :
    p.isMatch path = (!p.isEmpty && PatternSegment.matchPath p.segments path.segments) := by
  simp [isMatch, PatternSegment.matchRow_eq]

/-- Matches a text after bringing it into canonical form. -/
def matchesText (p : Pattern) (text : String) : Bool :=
  match ProjectPath.normalize? text with
  | some path => p.isMatch path
  | none => false

/-- Whether the pattern ends in `**`. -/
def endsRecursive (p : Pattern) : Bool := p.segments.getLast? = some .recursive

end Pattern
end TreeLint
