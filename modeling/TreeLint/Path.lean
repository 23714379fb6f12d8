/-!
Paths inside a project. A path is the text of its segments joined by `/`; the empty text is the
project root. `normalize?` gives every text its canonical path, or nothing when the text climbs
above the root.
-/
namespace TreeLint

/-- A path below the project root. -/
structure ProjectPath where
  text : String
deriving DecidableEq, Repr, Inhabited

namespace ProjectPath

/-- Paths are ordered by their text, code point by code point. -/
instance : LT ProjectPath := ⟨fun a b => a.text < b.text⟩

instance : DecidableLT ProjectPath := fun a b => inferInstanceAs (Decidable (a.text < b.text))

def root : ProjectPath := ⟨""⟩

def isRoot (p : ProjectPath) : Bool := p.text = ""

/-- The root is shown as a dot. -/
def display (p : ProjectPath) : String := if p.isRoot then "." else p.text

def isSeparator (c : Char) : Bool := c = '/' || c = '\\'

def ofSegments (segments : List String) : ProjectPath := ⟨"/".intercalate segments⟩

/-- One step of a climb: `..` takes the last segment off, and fails when there is none. -/
def step? (stack : List String) (segment : String) : Option (List String) :=
  if segment = "" ∨ segment = "." then some stack
  else if segment = ".." then
    match stack with
    | [] => none
    | _ :: below => some below
  else some (segment :: stack)

/-- The parts of a text between slashes and backslashes. -/
def parts (raw : String) : List String :=
  (raw.toList.splitOnP isSeparator).map String.ofList

/-- The canonical path of a text, unless the text climbs above the root. -/
def normalize? (raw : String) : Option ProjectPath :=
  ((parts raw).foldlM step? []).map fun stack => ofSegments stack.reverse

/-- Appends one entry name as it stands. -/
def join (p : ProjectPath) (name : String) : ProjectPath :=
  if p.isRoot then ⟨name⟩ else ⟨p.text ++ "/" ++ name⟩

/-- Follows a relative path from `p`. -/
def joinRelative? (p : ProjectPath) (relative : String) : Option ProjectPath :=
  normalize? (if p.isRoot then relative else p.text ++ "/" ++ relative)

/-- The text before the last slash, and the text after it. -/
def splitLast (cs : List Char) : Option (List Char) × List Char :=
  match cs with
  | [] => (none, [])
  | c :: rest =>
    match splitLast rest with
    | (some before, after) => (some (c :: before), after)
    | (none, after) => if c = '/' then (some [], after) else (none, c :: after)

/-- The directory that holds `p`. -/
def parent (p : ProjectPath) : ProjectPath :=
  match (splitLast p.text.toList).1 with
  | some before => ⟨String.ofList before⟩
  | none => root

/-- The last segment. -/
def fileName (p : ProjectPath) : String := String.ofList (splitLast p.text.toList).2

def segments (p : ProjectPath) : List String :=
  ((p.text.toList.splitOn '/').filter (· ≠ [])).map String.ofList

/-- Whether `p` is `dir` or lies below it. -/
def startsWith (p dir : ProjectPath) : Bool :=
  dir.isRoot || p = dir || (dir.text.toList ++ ['/']).isPrefixOf p.text.toList

/-- The directories from the parent of `p` up to the root, for a path of `n` segments or fewer. -/
def climb : Nat → ProjectPath → List ProjectPath
  | 0, _ => []
  | n + 1, p => if p.isRoot then [] else p.parent :: climb n p.parent

/-- Every directory above `p`, nearest first. The root lies in itself. -/
def ancestors (p : ProjectPath) : List ProjectPath :=
  if p.isRoot then [root] else climb (p.text.toList.length + 1) p

end ProjectPath
end TreeLint
