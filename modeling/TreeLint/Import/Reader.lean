import TreeLint.Unicode.Classes

/-!
Readers that recognise a piece of source text in several ways. The ways are listed in order of
preference, and each gives what was read and where reading stopped.
-/
namespace TreeLint.Import

/-- A place in a text: the character before it, if any, and the text after it. -/
structure Cursor where
  before : Option Char
  rest : List Char
deriving DecidableEq, Repr

/-- All ways to read an `α` from a place on, the preferred one first. -/
def Reader (α : Type) : Type := Cursor → List (α × Cursor)

namespace Reader

instance : Monad Reader where
  pure a := fun c => [(a, c)]
  bind r f := fun c => (r c).flatMap fun (a, c) => f a c

/-- The ways of `r`, and after them those of `s`. -/
def orElse {α : Type} (r s : Reader α) : Reader α := fun c => r c ++ s c

/-- The preferred way to read. -/
def first? {α : Type} (r : Reader α) (c : Cursor) : Option (α × Cursor) := (r c).head?

/-- Goes on with a value that there may be. -/
def ofOption {α : Type} (a : Option α) : Reader α := fun c => (a.map (·, c)).toList

def char (p : Char → Bool) : Reader Unit := fun c =>
  match c.rest with
  | x :: rest => if p x then [((), ⟨some x, rest⟩)] else []
  | [] => []

/-- Reads exactly these characters. -/
def chars : List Char → Reader Unit
  | [] => pure ()
  | x :: xs => do char (· = x); chars xs

def text (s : String) : Reader Unit := chars s.toList

def isWord? (c : Option Char) : Bool := c.any Unicode.isWord

/-- Reads nothing, at the start or the end of a word. -/
def boundary : Reader Unit := fun c =>
  if isWord? c.before != isWord? c.rest.head? then [((), c)] else []

/-- The places that are reached by stepping over characters in `p`, nearest first. -/
def ends (p : Char → Bool) (before : Option Char) : List Char → List Cursor
  | [] => [⟨before, []⟩]
  | x :: rest => ⟨before, x :: rest⟩ :: if p x then ends p (some x) rest else []

/-- As many characters in `p` as will do. -/
def many (p : Char → Bool) : Reader Unit := fun c => (ends p c.before c.rest).reverse.map ((), ·)

/-- As many characters in `p` as will do, but at least one. -/
def many1 (p : Char → Bool) : Reader Unit := do char p; many p

def blanks : Reader Unit := many Unicode.isSpace

def blanks1 : Reader Unit := many1 Unicode.isSpace

end Reader
end TreeLint.Import
