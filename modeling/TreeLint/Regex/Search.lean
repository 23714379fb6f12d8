import TreeLint.Regex.Program
import TreeLint.Unicode.Classes

/-!
The first match of a regular expression in a text. All ways to match are followed side by side,
those that are preferred first, so that each character is looked at once.
-/
namespace TreeLint

namespace Look

def isWordBeside (ascii : Bool) (c : Option Char) : Bool :=
  c.any fun c => if ascii then c.isAlphanum || c = '_' else Unicode.isWord c

/-- Whether a place between two characters is what `l` asks for. -/
def holds (l : Look) (before after : Option Char) : Bool :=
  match l with
  | .textStart => before.isNone
  | .textEnd => after.isNone
  | .lineStart => before.isNone || before = some '\n'
  | .lineEnd => after.isNone || after = some '\n'
  | .lineStartCrlf =>
    before.isNone || before = some '\n' || (before = some '\r' && after ≠ some '\n')
  | .lineEndCrlf => after.isNone || after = some '\r' || (after = some '\n' && before ≠ some '\r')
  | .boundary ascii => isWordBeside ascii before != isWordBeside ascii after
  | .noBoundary ascii => isWordBeside ascii before == isWordBeside ascii after
  | .wordStart ascii => !isWordBeside ascii before && isWordBeside ascii after
  | .wordEnd ascii => isWordBeside ascii before && !isWordBeside ascii after
  | .noWordBefore ascii => !isWordBeside ascii before
  | .noWordAfter ascii => !isWordBeside ascii after

end Look

namespace Regex

/-- One way to match that is under way: where it started and the step it has come to. -/
structure Way where
  start : Nat
  step : Nat
deriving Repr

/-- The ways at one place, in reverse order of preference, and for each step the number of the last
place where it was come to. Places are numbered from one. -/
structure Front where
  lastVisit : Array Nat
  reversed : List Way

/-- Follows looks and branches from the steps on a stack, for at most `fuel` steps. A step that was
come to before at this place is left to the way that came first. -/
def follow (p : Program) (place : Nat) (before after : Option Char) (start : Nat) :
    (fuel : Nat) → List Nat → Array Nat → List Way → Front
  | 0, _, lastVisit, reversed => ⟨lastVisit, reversed⟩
  | _, [], lastVisit, reversed => ⟨lastVisit, reversed⟩
  | n + 1, i :: stack, lastVisit, reversed =>
    if lastVisit.getD i place = place then
      follow p place before after start n stack lastVisit reversed
    else
      let lastVisit := lastVisit.setIfInBounds i place
      match p[i]? with
      | some (.look l next) =>
        let stack := if l.holds before after then next :: stack else stack
        follow p place before after start n stack lastVisit reversed
      | some (.split preferred other) =>
        follow p place before after start n (preferred :: other :: stack) lastVisit reversed
      | some _ => follow p place before after start n stack lastVisit (⟨start, i⟩ :: reversed)
      | none => ⟨lastVisit, reversed⟩

/-- Adds a way that has come to a step, and what it leads to. -/
def Front.add (front : Front) (p : Program) (place : Nat) (before after : Option Char)
    (start step : Nat) : Front :=
  follow p place before after start (2 * p.size + 2) [step] front.lastVisit front.reversed

/-- Passes over the ways at a place, where `c` is the next character, on to the next place. A way that
is complete ends all ways that come after it; the others go on where the character lets them. -/
def advance (p : Program) (place : Nat) (c : Char) (after : Option Char) :
    List Way → Front → Option (Nat × Nat) × Front
  | [], front => (none, front)
  | ⟨start, step⟩ :: rest, front =>
    match p[step]? with
    | some .accept => (some (start, place - 1), front)
    | some (.read s go) =>
      if s.contains c then
        advance p place c after rest (front.add p (place + 1) (some c) after start go)
      else advance p place c after rest front
    | _ => advance p place c after rest front

/-- The first way that is complete, with the position that it has come to. -/
def complete? (p : Program) (position : Nat) (ways : List Way) : Option (Nat × Nat) :=
  (ways.find? fun way => p[way.step]? matches some .accept).map fun way => (way.start, position)

/-- Searches from a place on. The ways at `front` have come this far, and `best` is the match found
by them. -/
def searchFrom (p : Program) (entry : Nat) (position : Nat) (before : Option Char)
    (front : Front) (best : Option (Nat × Nat)) (cs : List Char) : Option (Nat × Nat) :=
  let place := position + 1
  let ⟨lastVisit, reversed⟩ :=
    if best.isNone then front.add p place before cs.head? position entry else front
  match cs with
  | [] => (complete? p position reversed.reverse).or best
  | c :: rest =>
    let (found, front) := advance p place c rest.head? reversed.reverse ⟨lastVisit, []⟩
    let best := found.or best
    if front.reversed.isEmpty && best.isSome then best
    else searchFrom p entry place (some c) front best rest

/-- Where the first match starts and ends, counted in characters. -/
def Matcher.find? (m : Matcher) (cs : List Char) : Option (Nat × Nat) :=
  searchFrom m.program m.entry 0 none ⟨Array.replicate m.program.size 0, []⟩ none cs

def Matcher.isMatch (m : Matcher) (cs : List Char) : Bool := (m.find? cs).isSome

end Regex
end TreeLint
