import Std.Data.HashMap
import TreeLint.CharSet
import TreeLint.Unicode.Utf8

/-!
Automata over bytes as they lie in memory. Only how much they take is kept. States that do the same
are shared where a table of limited size still knows them.
-/
namespace TreeLint.Regex

open Unicode.Utf8 (ByteRun)

/-- What has been laid out of an automaton: its states, of 32 bytes each, and the bytes that they
hold beside their own. States are numbered from zero in the order in which they are added. -/
structure Layout where
  states : Nat
  extra : Nat
deriving Repr

/-- The direction in which an automaton reads a text. -/
inductive Reading
  | forward
  | backward
deriving DecidableEq, Repr

namespace Layout

def bytes (l : Layout) : Nat := 32 * l.states + l.extra

/-- Ten mebibytes are granted. -/
def fits (l : Layout) : Bool := l.bytes ≤ 10 * Nat.pow 2 20

def add (l : Layout) (states extra : Nat) : Layout := ⟨l.states + states, l.extra + extra⟩

/-- Lays something out `n` times, or until it does not fit. -/
def times (body : Layout → Layout) : Nat → Layout → Layout
  | 0, l => l
  | n + 1, l => if l.fits then times body n (body l) else l

/-- The place for a key among so many places. -/
def place (capacity : Nat) (key : List Nat) : Nat :=
  let hash : UInt64 := key.foldl (fun h n => (h ^^^ UInt64.ofNat n) * 1099511628211)
    14695981039346656037
  hash.toNat % capacity

/-- A layout with the states that may still be shared. Each lies at the place of its key, where it
stays until another one gets the same place. -/
structure Shared where
  layout : Layout
  known : Std.HashMap Nat (List Nat × Nat)

/-- The number of the state with this key, which is added if it is not known. -/
def Shared.state (s : Shared) (capacity : Nat) (key : List Nat) (extra : Nat) : Nat × Shared :=
  let i := place capacity key
  match s.known[i]?.filter (·.1 = key) with
  | some (_, state) => (state, s)
  | none =>
    let state := s.layout.states
    (state, ⟨s.layout.add 1 extra, s.known.insert i (key, state)⟩)

/-- The bytes that lead to a state. -/
structure Arc where
  run : ByteRun
  target : Nat

/-- A state under way: the arcs that it has, in reverse, and the bytes of the next one. -/
structure Branching where
  reversed : List Arc
  next : ByteRun

def Branching.start (run : ByteRun) : Branching := ⟨[], run⟩

/-- The arcs of a state, of which the last one leads to `target`. -/
def Branching.close (b : Branching) (target : Nat) : List Arc := ⟨b.next, target⟩ :: b.reversed

/-- Ends a path of states, whose last one leads to the state `target`. Gives the first of them. -/
def endPath (target : Nat) : List Branching → Shared → Nat × Shared
  | [], s => (target, s)
  | b :: below, s =>
    let (next, s) := endPath target below s
    let arcs := (b.close next).reverse
    s.state 10000 (arcs.flatMap fun a => [a.run.1, a.run.2, a.target]) (8 * arcs.length)

/-- Goes over to the path of the next bytes. What it has in common with the path before stays under
way. -/
def nextPath (target : Nat) : List Branching → List ByteRun → Shared → List Branching × Shared
  | b :: below, run :: rest, s =>
    if b.next = run then
      let (below, s) := nextPath target below rest s
      (b :: below, s)
    else
      let (next, s) := endPath target below s
      (⟨b.close next, run⟩ :: rest.map .start, s)
  | _, runs, s => (runs.map .start, s)

/-- Encodings read forward: a tree of bytes whose like ends are shared. -/
def addForward (encodings : List (List ByteRun)) (l : Layout) : Layout :=
  let target := l.states
  let (path, s) := encodings.foldl (fun (path, s) runs => nextPath target path runs s)
    ([], ⟨l.add 1 0, ∅⟩)
  (endPath target path s).2.layout

/-- The states of one encoding read backward, of which the last leads to `target`. -/
def addSuffix (target : Nat) : List ByteRun → Shared → Shared
  | [], s => s
  | run :: rest, s =>
    let (state, s) := s.state 1000 [target, run.1, run.2] 0
    addSuffix state rest s

/-- Encodings read backward: a way for each of them, whose like ends are shared. -/
def addBackward (encodings : List (List ByteRun)) (l : Layout) : Layout :=
  let target := l.states + 1
  let s := encodings.foldl (fun s runs => addSuffix target runs s) ⟨l.add 2 0, ∅⟩
  s.layout.add 0 (4 * encodings.length)

/-- One character of a set. All of ASCII is read by one state. -/
def addSet (reading : Reading) (set : CharSet) (l : Layout) : Layout :=
  let runs := set.runs
  if runs.all (·.2 < 0x80) then l.add 2 (8 * runs.length)
  else
    let encodings := runs.flatMap fun (lo, hi) => Unicode.Utf8.encodings lo hi
    match reading with
    | .forward => l.addForward encodings
    | .backward => l.addBackward encodings

/-- The words of a list up to each empty one. Of empty words at the start one counts. -/
def chunks (words : List (List Nat)) : List (List (List Nat)) :=
  let more := (words.dropWhile List.isEmpty).splitOnP List.isEmpty
  if words.head?.any List.isEmpty then [] :: more else more

/-- What follows a byte in the words that start with it. -/
def tails (head : Nat) (words : List (List Nat)) : List (List Nat) :=
  words.filterMap fun word => if word.head? = some head then some word.tail else none

/-- A tree of words, which keeps the order of preference: what comes after a word that ends here is
a branch of its own. `fuel` exceeds the length of all words. -/
def addWords : (fuel : Nat) → List (List Nat) → Layout → Layout
  | 0, _, l => l
  | n + 1, words, l =>
    let cs := chunks words
    let (l, branches) := cs.foldl
      (fun (l, branches) chunk =>
        match (chunk.filterMap List.head?).eraseDups with
        | [] => (l, branches)
        | heads =>
          let l := heads.foldl
            (fun l head =>
              let rests := tails head chunk
              if rests.all List.isEmpty then l else addWords n rests l) l
          (l.add 1 (if heads.length = 1 then 0 else 8 * heads.length), branches + 1))
      (l, cs.length - 1)
    l.add 1 (4 * branches)

/-- Alternatives that are all words. -/
def addLiterals (reading : Reading) (words : List (List Char)) (l : Layout) : Layout :=
  let words := words.map fun word =>
    let bytes := word.flatMap Unicode.Utf8.encode
    if reading = .forward then bytes else bytes.reverse
  addWords ((words.map List.length).foldl max 0 + 1) words (l.add 1 0)

/-- What an alternative adds when `before` others stand before it: the second brings the branching
state and the end, each later one a branch. -/
def join (before : Nat) (l : Layout) : Layout :=
  match before with
  | 0 => l
  | 1 => l.add 2 8
  | _ => l.add 0 4

end Layout
end TreeLint.Regex
