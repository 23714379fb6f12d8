import TreeLint.CharSet

/-!
Regular expressions as trees. The functions that build them keep them in a simple form: literals
are as long as can be, what is the same at the start of all alternatives stands once, and nothing
is repeated that reads nothing.
-/
namespace TreeLint

/-- What an expression may ask of a place without reading anything there. -/
inductive Look
  | textStart
  | textEnd
  | lineStart
  | lineEnd
  | lineStartCrlf
  | lineEndCrlf
  | boundary (ascii : Bool)
  | noBoundary (ascii : Bool)
  | wordStart (ascii : Bool)
  | wordEnd (ascii : Bool)
  | noWordBefore (ascii : Bool)
  | noWordAfter (ascii : Bool)
deriving DecidableEq, Repr

/-- A regular expression. Alternatives and repetitions list their preferred way first. -/
inductive Regex
  | empty
  | literal (cs : List Char)
  | set (s : CharSet)
  | look (l : Look)
  | group (body : Regex)
  | seq (first second : Regex)
  | alt (first second : Regex)
  | repeat (body : Regex) (least : Nat) (most : Option Nat) (greedy : Bool)
deriving DecidableEq, Repr, Inhabited

namespace Regex

/-- Whether all matches of an expression are empty. -/
def readsNothing : Regex → Bool
  | .empty | .look _ => true
  | .literal cs => cs.isEmpty
  | .set _ => false
  | .group body => body.readsNothing
  | .seq a b => a.readsNothing && b.readsNothing
  | .alt a b => a.readsNothing && b.readsNothing
  | .repeat body _ _ _ => body.readsNothing

/-- A bound below the length of every match. There is none where some way cannot match at all. -/
def shortest : Regex → Option Nat
  | .empty | .look _ => some 0
  | .literal cs => some cs.length
  | .set s => if s.isEmpty then none else some 1
  | .group body => body.shortest
  | .seq a b => do return (← a.shortest) + (← b.shortest)
  | .alt a b => do return min (← a.shortest) (← b.shortest)
  | .repeat body least _ _ => body.shortest.map (least * ·)

/-- Whether every match is known to read something. -/
def alwaysReads (r : Regex) : Bool := r.shortest.any (0 < ·)

/-- Whether every match is known to start where the text does. -/
def startsAnchored : Regex → Bool
  | .look l => l = .textStart
  | .group body => body.startsAnchored
  | .seq a b => a.startsAnchored || (a.readsNothing && b.startsAnchored)
  | .alt a b => a.startsAnchored && b.startsAnchored
  | .repeat body least _ _ => 0 < least && body.startsAnchored
  | _ => false

/-- Whether every match is known to end where the text does. -/
def endsAnchored : Regex → Bool
  | .look l => l = .textEnd
  | .group body => body.endsAnchored
  | .seq a b => b.endsAnchored || (b.readsNothing && a.endsAnchored)
  | .alt a b => a.endsAnchored && b.endsAnchored
  | .repeat body least _ _ => 0 < least && body.endsAnchored
  | _ => false

/-- Groups are told apart by where they stand, so that no two of them are the same. -/
def hasGroup : Regex → Bool
  | .group _ => true
  | .seq a b => a.hasGroup || b.hasGroup
  | .alt a b => a.hasGroup || b.hasGroup
  | .repeat body _ _ _ => body.hasGroup
  | _ => false

/-- One character of a set. -/
def ofSet (s : CharSet) : Regex :=
  match s.single? with
  | some c => .literal [c]
  | none => .set s

/-- The parts of a sequence. -/
def parts : Regex → List Regex
  | .empty => []
  | .seq a b => a.parts ++ b.parts
  | r => [r]

/-- Puts a part before others; literals side by side are one. -/
def consPart : Regex → List Regex → List Regex
  | .literal a, .literal b :: rest => .literal (a ++ b) :: rest
  | r, rest => r :: rest

def seqOfParts : List Regex → Regex
  | [] => .empty
  | [r] => r
  | r :: rest => .seq r (seqOfParts rest)

/-- Expressions one after another. -/
def seqAll (rs : List Regex) : Regex := seqOfParts ((rs.flatMap parts).foldr consPart [])

/-- The alternatives that an expression offers. -/
def ways : Regex → List Regex
  | .alt a b => a.ways ++ b.ways
  | r => [r]

def altOfWays : List Regex → Regex
  | [] => .set .empty
  | [r] => r
  | r :: rest => .alt r (altOfWays rest)

def singleChar? : Regex → Option Char
  | .literal [c] => some c
  | _ => none

def set? : Regex → Option CharSet
  | .set s => some s
  | _ => none

/-- The set that alternatives amount to if all of them are single characters, or all sets. -/
def setOfWays? (ways : List Regex) : Option CharSet :=
  match ways.mapM singleChar? with
  | some cs => some (.ofRuns (cs.map fun c => (c.toNat, c.toNat)))
  | none => (ways.mapM set?).map fun sets => .ofRuns (sets.flatMap (·.runs))

/-- The parts of an expression that is a sequence. -/
def sequence? : Regex → Option (List Regex)
  | .seq a b => some (a.parts ++ b.parts)
  | _ => none

/-- The parts that two sequences start with. -/
def sharedParts : List Regex → List Regex → List Regex
  | a :: as, b :: bs => if a = b && !a.hasGroup then a :: sharedParts as bs else []
  | _, _ => []

/-- Joins alternatives. Those that are sequences share what they start with; `fuel` bounds how often
that is done to what is left of them. -/
def joinWays : (fuel : Nat) → List Regex → Regex
  | n + 1, first :: second :: rest =>
    let all := first :: second :: rest
    match setOfWays? all, all.mapM sequence? with
    | some s, _ => ofSet s
    | none, some (first :: others) =>
      match others.foldl sharedParts first with
      | [] => altOfWays all
      | shared =>
        let rests := (first :: others).map fun parts => seqAll (parts.drop shared.length)
        seqAll (shared ++ [joinWays n (rests.flatMap ways)])
    | none, _ => altOfWays all
  | _, all => altOfWays all

/-- How many nodes a tree has. -/
def size : Regex → Nat
  | .group body | .repeat body _ _ _ => body.size + 1
  | .seq a b | .alt a b => a.size + b.size + 1
  | _ => 1

/-- Alternatives, the preferred one first. -/
def altAll (rs : List Regex) : Regex := joinWays ((rs.map size).foldr (· + ·) 0) (rs.flatMap ways)

/-- Repeats an expression. What reads nothing need not be done twice. -/
def repeatOf (body : Regex) (least : Nat) (most : Option Nat) (greedy : Bool) : Regex :=
  let (least, most) :=
    if body.readsNothing then (min least 1, some (min (most.getD 1) 1)) else (least, most)
  if most = some 0 then .empty
  else if least = 1 && most = some 1 then body
  else .repeat body least most greedy

end Regex
end TreeLint
