import TreeLint.Regex.Basic

/-!
Programs for regular expressions: steps that read a character, look at a place, or branch.
-/
namespace TreeLint.Regex

/-- One step of a program, with where to go on. -/
inductive Step
  | accept
  | read (s : CharSet.Index) (next : Nat)
  | look (l : Look) (next : Nat)
  | split (preferred other : Nat)
deriving DecidableEq, Repr, Inhabited

abbrev Program := Array Step

def push (step : Step) (p : Program) : Nat × Program := (p.size, p.push step)

def branch (greedy : Bool) (into past : Nat) : Step :=
  if greedy then .split into past else .split past into

/-- A way to add steps that go on at a given step; gives the step they start with. -/
abbrev Fragment := (next : Nat) → Program → Nat × Program

namespace Fragment

def times (body : Fragment) : Nat → Fragment
  | 0, next, p => (next, p)
  | n + 1, next, p =>
    let (start, p) := body next p
    times body n start p

/-- Up to `n` times on the way to `next`, with a way to `past` before each time. -/
def upTo (body : Fragment) (greedy : Bool) (past : Nat) : Nat → Fragment
  | 0, next, p => (next, p)
  | n + 1, next, p =>
    let (start, p) := body next p
    let (start, p) := push (branch greedy start past) p
    upTo body greedy past n start p

/-- A body that comes back to a branching step; gives that step and the start of the body. -/
def loop (body : Fragment) (greedy : Bool) (next : Nat) (p : Program) : Nat × Nat × Program :=
  let (back, p) := push .accept p
  let (start, p) := body back p
  (back, start, p.setIfInBounds back (branch greedy start next))

end Fragment

/-- Adds the steps of an expression. A loop over a body that can match nothing is entered through a
branch of its own, so that the way past it keeps its place among the preferences. -/
def compile : Regex → Fragment
  | .empty, next, p => (next, p)
  | .literal cs, next, p =>
    cs.foldr (fun c (start, p) => push (.read (CharSet.single c).index start) p) (next, p)
  | .set s, next, p => push (.read s.index next) p
  | .look l, next, p => push (.look l next) p
  | .group body, next, p => compile body next p
  | .seq a b, next, p =>
    let (start, p) := compile b next p
    compile a start p
  | .alt a b, next, p =>
    let (left, p) := compile a next p
    let (right, p) := compile b next p
    push (.split left right) p
  | .repeat body least (some most) greedy, next, p =>
    let (start, p) := Fragment.upTo (compile body) greedy next (most - least) next p
    Fragment.times (compile body) least start p
  | .repeat body least none greedy, next, p =>
    let (back, start, p) := Fragment.loop (compile body) greedy next p
    if least = 0 then
      if body.alwaysReads then (back, p) else push (branch greedy start next) p
    else Fragment.times (compile body) (least - 1) start p

/-- A program, with the step it starts with. -/
structure Matcher where
  entry : Nat
  program : Program
deriving DecidableEq, Repr

/-- An expression ready to search with. -/
def matcher (r : Regex) : Matcher :=
  let (entry, p) := compile r 0 #[.accept]
  ⟨entry, p⟩

end TreeLint.Regex
