import TreeLint.Suffixes

/-!
Globs for a single entry name: `?`, `*` and the classes `[...]` and `[!...]`. Reading a glob never
looks at a directory, and matching one never crosses a slash, since a name holds none.
-/
namespace TreeLint

/-- A member of a class: one character, or all from `first` to `last`. -/
inductive ClassItem
  | single (c : Char)
  | range (first last : Char)
deriving DecidableEq, Repr

namespace ClassItem

def contains (c : Char) : ClassItem → Bool
  | .single d => c = d
  | .range first last => first ≤ c && c ≤ last

/-- Reads the text of a class; a dash between two characters makes a range. -/
def ofText : List Char → List ClassItem
  | first :: '-' :: last :: rest => .range first last :: ofText rest
  | c :: rest => .single c :: ofText rest
  | [] => []

end ClassItem

/-- A piece of a glob. -/
inductive GlobToken
  | char (c : Char)
  | anyChar
  | anyText
  | oneOf (items : List ClassItem)
  | noneOf (items : List ClassItem)
deriving DecidableEq, Repr

/-- Why a text is no glob. -/
inductive GlobFault
  | starRun
  | starPair
  | openClass
deriving DecidableEq, Repr

/-- A fault, at a position counted in characters. -/
structure GlobError where
  position : Nat
  fault : GlobFault
deriving DecidableEq, Repr

namespace GlobError

def reason : GlobFault → String
  | .starRun => "wildcards are either regular `*` or recursive `**`"
  | .starPair => "recursive wildcards must form a single path component"
  | .openClass => "invalid range pattern"

def message (e : GlobError) : String :=
  s!"Pattern syntax error near position {e.position}: {reason e.fault}"

end GlobError

/-- A compiled glob with the text it was read from. -/
structure Glob where
  text : String
  tokens : List GlobToken
deriving DecidableEq, Repr

namespace Glob

/-- How far the reader is into a class that opened at `start`. -/
inductive ClassState
  | opened (start : Nat)
  | negated (start : Nat)
  | members (start : Nat) (negative : Bool) (reversed : List Char)

def ClassState.start : ClassState → Nat
  | .opened n | .negated n | .members n _ _ => n

def classToken (negative : Bool) (text : List Char) : GlobToken :=
  if negative then .noneOf (ClassItem.ofText text) else .oneOf (ClassItem.ofText text)

/-- Reads the characters from position `i` on. The first member of a class is taken as it is, be it
a closing bracket; the next closing bracket ends the class. -/
def read (i : Nat) : Option ClassState → List Char → Except GlobError (List GlobToken)
  | some state, [] => .error ⟨state.start, .openClass⟩
  | some (.opened n), c :: rest =>
    if c = '!' then read (i + 1) (some (.negated n)) rest
    else read (i + 1) (some (.members n false [c])) rest
  | some (.negated n), c :: rest => read (i + 1) (some (.members n true [c])) rest
  | some (.members n negative seen), c :: rest =>
    if c = ']' then (classToken negative seen.reverse :: ·) <$> read (i + 1) none rest
    else read (i + 1) (some (.members n negative (c :: seen))) rest
  | none, [] => .ok []
  | none, '*' :: '*' :: '*' :: _ => .error ⟨i + 2, .starRun⟩
  | none, '*' :: '*' :: rest =>
    if i ≠ 0 then .error ⟨i - 1, .starPair⟩
    else if rest ≠ [] then .error ⟨2, .starPair⟩
    else .ok [.anyText]
  | none, '*' :: rest => (.anyText :: ·) <$> read (i + 1) none rest
  | none, '?' :: rest => (.anyChar :: ·) <$> read (i + 1) none rest
  | none, '[' :: rest => read (i + 1) (some (.opened i)) rest
  | none, c :: rest => (.char c :: ·) <$> read (i + 1) none rest

def parse (text : String) : Except GlobError Glob :=
  (⟨text, ·⟩) <$> read 0 none text.toList

/-- Whether the tokens spell out exactly these characters. -/
def spells : List GlobToken → List Char → Bool
  | [] => List.isEmpty
  | .anyText :: rest => someSuffix (spells rest)
  | .char d :: rest => startsWithOne (· = d) (spells rest)
  | .anyChar :: rest => startsWithOne (fun _ => true) (spells rest)
  | .oneOf items :: rest => startsWithOne (fun c => items.any (·.contains c)) (spells rest)
  | .noneOf items :: rest => startsWithOne (fun c => !items.any (·.contains c)) (spells rest)

/-- For each suffix of a name: whether the tokens spell it out. -/
def spellsRow (name : List Char) : List GlobToken → List Bool
  | [] => rowOf List.isEmpty name
  | .anyText :: rest => someRow (spellsRow name rest)
  | .char d :: rest => oneRow (· = d) name (spellsRow name rest)
  | .anyChar :: rest => oneRow (fun _ => true) name (spellsRow name rest)
  | .oneOf items :: rest => oneRow (fun c => items.any (·.contains c)) name (spellsRow name rest)
  | .noneOf items :: rest => oneRow (fun c => !items.any (·.contains c)) name (spellsRow name rest)

theorem spellsRow_eq (name : List Char) (tokens : List GlobToken) :
    spellsRow name tokens = rowOf (spells tokens) name := by
  induction tokens with
  | nil => rfl
  | cons token rest ih =>
    cases token <;> simp [spellsRow, spells, ih, someRow_rowOf, oneRow_rowOf]

def isMatch (g : Glob) (name : String) : Bool := (spellsRow name.toList g.tokens).headD false

theorem isMatch_eq_spells (g : Glob) (name : String) :
    g.isMatch name = spells g.tokens name.toList := by
  simp [isMatch, spellsRow_eq]

end Glob
end TreeLint
