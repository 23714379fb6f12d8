import TreeLint.Import.Statement
import TreeLint.Line

/-!
Finding the modules that a source text names. Comments that start with two slashes are taken off
first; each kind of statement is then looked for by itself, from left to right and without overlap.
-/
namespace TreeLint.Import

/-- A module named by a source file: the text between the quotes, the line, counted from one, and
the kind. -/
structure Edge where
  specifier : String
  line : Nat
  kind : EdgeKind
deriving DecidableEq, Repr

/-- Which edges are asked for besides static ones. -/
structure Options where
  typeOnly : Bool := true
  dynamic : Bool := true
  require : Bool := true
deriving DecidableEq, Repr, Inhabited

/-- Whether edges of a kind are asked for. -/
def Options.wants (o : Options) : EdgeKind → Bool
  | .static => true
  | .typeOnly => o.typeOnly
  | .dynamic => o.dynamic
  | .require => o.require

/-- A line up to its first two slashes in a row. -/
def stripLine : List Char → List Char
  | '/' :: '/' :: _ => []
  | c :: rest => c :: stripLine rest
  | [] => []

/-- The text without comments. Line breaks stay. -/
def stripComments (source : String) : String :=
  String.ofList (['\n'].intercalate ((source.toList.splitOn '\n').map stripLine))

/-- Everything that `reader` finds, with the offset of each find in characters. The next `skip`
characters belong to the find before. -/
def scan {α : Type} (reader : Reader α) (skip offset : Nat) (before : Option Char) :
    List Char → List (Nat × α)
  | [] => []
  | c :: rest =>
    match skip with
    | n + 1 => scan reader n (offset + 1) (some c) rest
    | 0 =>
      match reader.first? ⟨before, c :: rest⟩ with
      | some (found, stop) =>
        (offset, found) :: scan reader (rest.length - stop.rest.length) (offset + 1) (some c) rest
      | none => scan reader 0 (offset + 1) (some c) rest

def findAll {α : Type} (reader : Reader α) (cs : List Char) : List (Nat × α) :=
  scan reader 0 0 none cs

/-- All finds that are asked for, in the order in which they start. Of the statements those for
types are left out where they are not asked for; calls that are not asked for are not looked for. -/
def finds (o : Options) (cs : List Char) : List (Nat × EdgeKind × String) :=
  let statements := findAll importStatement cs ++ findAll exportStatement cs
  let importCalls := if o.dynamic then findAll importCall cs else []
  let requireCalls := if o.require then findAll requireCall cs else []
  (statements.filter (o.wants ·.2.1) ++ importCalls ++ requireCalls).mergeSort
    (fun a b => a.1 ≤ b.1)

/-- The modules that a source text names, in source order. -/
def edges (source : String) (o : Options) : List Edge :=
  let cs := (stripComments source).toList
  (finds o cs).map fun (offset, kind, specifier) => ⟨specifier, Line.ofChar cs offset, kind⟩

end TreeLint.Import
