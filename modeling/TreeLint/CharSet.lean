/-!
Sets of characters, kept as the ascending code points at which membership changes.
-/
namespace TreeLint

/-- Members run from the first bound up to the second, from the third up to the fourth, and on. -/
structure CharSet where
  bounds : List Nat
deriving DecidableEq, Repr, Inhabited

namespace CharSet

def empty : CharSet := ⟨[]⟩

/-- All characters. The code points from D800 to DFFF are surrogates, which are none. -/
def full : CharSet := ⟨[0, 0xD800, 0xE000, 0x110000]⟩

/-- Whether membership is on at `n`, having been `inside` before the bounds. -/
def isInside (n : Nat) (inside : Bool) : List Nat → Bool
  | [] => inside
  | b :: rest => if b ≤ n then isInside n (!inside) rest else inside

def contains (s : CharSet) (c : Char) : Bool := isInside c.toNat false s.bounds

/-- The code points from `first` to `last`. -/
def ofRange (first last : Nat) : CharSet := if first ≤ last then ⟨[first, last + 1]⟩ else empty

def single (c : Char) : CharSet := ofRange c.toNat c.toNat

/-- Passes over the bounds of two sets, each marked by whether it belongs to the first. `a` and `b`
say whether the sets are on before the next bound, `on` whether the outcome is. -/
def sweep (f : Bool → Bool → Bool) (a b on : Bool) : List (Nat × Bool) → List Nat
  | [] => []
  | (bound, isFirst) :: rest =>
    let a := a != isFirst
    let b := b == isFirst
    if rest.head?.any (·.1 = bound) || f a b = on then sweep f a b on rest
    else bound :: sweep f a b (f a b) rest

/-- The set of the characters for which `f` holds of membership in `s` and in `t`. -/
def combine (f : Bool → Bool → Bool) (s t : CharSet) : CharSet :=
  ⟨sweep f false false false
    ((s.bounds.map (·, true)).merge (t.bounds.map (·, false)) (fun p q => p.1 ≤ q.1))⟩

def union (s t : CharSet) : CharSet := combine (· || ·) s t

def inter (s t : CharSet) : CharSet := combine (· && ·) s t

def diff (s t : CharSet) : CharSet := combine (fun a b => a && !b) s t

def symmDiff (s t : CharSet) : CharSet := combine (· != ·) s t

def compl (s : CharSet) : CharSet := diff full s

def isEmpty (s : CharSet) : Bool := s.bounds.isEmpty

/-- The first and the last member of each run, between the bounds of a list. -/
def runsOf : List Nat → List (Nat × Nat)
  | first :: past :: rest => (first, past - 1) :: runsOf rest
  | _ => []

/-- The runs of members that follow one another. -/
def runs (s : CharSet) : List (Nat × Nat) := runsOf s.bounds

/-- The bounds of a run and of those after it, which are sorted by their starts. -/
def boundsFrom (first last : Nat) : List (Nat × Nat) → List Nat
  | [] => [first, last + 1]
  | (start, stop) :: rest =>
    if start ≤ last + 1 then boundsFrom first (max last stop) rest
    else first :: (last + 1) :: boundsFrom start stop rest

/-- The set of runs, which may come in any order and overlap. -/
def ofRuns (runs : List (Nat × Nat)) : CharSet :=
  match runs.mergeSort (fun a b => a.1 ≤ b.1) with
  | [] => empty
  | (first, last) :: rest => ⟨boundsFrom first last rest⟩

/-- The only member of a set that has one. -/
def single? (s : CharSet) : Option Char :=
  match s.bounds with
  | [first, past] => if past = first + 1 then some (Char.ofNat first) else none
  | _ => none

/-- The bounds of a set in an array, in which characters are looked up by halving. -/
structure Index where
  bounds : Array Nat
deriving DecidableEq, Repr, Inhabited

def index (s : CharSet) : Index := ⟨s.bounds.toArray⟩

namespace Index

/-- The place of the first bound above `n`, which is not before `lo` nor after `hi`. -/
def firstAbove (i : Index) (n : Nat) : (fuel lo hi : Nat) → Nat
  | 0, lo, _ => lo
  | fuel + 1, lo, hi =>
    if hi ≤ lo then lo
    else
      let mid := (lo + hi) / 2
      if i.bounds.getD mid 0 ≤ n then i.firstAbove n fuel (mid + 1) hi
      else i.firstAbove n fuel lo mid

def contains (i : Index) (c : Char) : Bool :=
  i.firstAbove c.toNat i.bounds.size 0 i.bounds.size % 2 = 1

end Index

/-- How the first number of a run in a table goes with the last: all numbers between them belong to
the table, or every second one. -/
inductive Run
  | all (first : Nat)
  | second (first : Nat)

/-- The bounds of a run that ends at `last`. -/
def Run.bounds (run : Option Run) (last : Nat) : List Nat :=
  match run with
  | none => [last, last + 1]
  | some (.all first) => [first, last + 1]
  | some (.second first) =>
    (List.range ((last - first) / 2 + 1)).flatMap fun i => [first + 2 * i, first + 2 * i + 1]

def hexValue (c : Char) : Nat := if c.isDigit then c.toNat - 0x30 else c.toNat - 0x37

/-- The bounds in a table, of which a number `n` has been read. -/
def readTable (run : Option Run) (n : Nat) : List Char → List Nat
  | [] => Run.bounds run n
  | ' ' :: rest => Run.bounds run n ++ readTable none 0 rest
  | '-' :: rest => readTable (some (.all n)) 0 rest
  | '~' :: rest => readTable (some (.second n)) 0 rest
  | c :: rest => readTable run (16 * n + hexValue c) rest

/-- The set of a table: ascending hexadecimal numbers, with blanks between those of a line. Of `A-F`
all numbers belong to the set, of `A~E` every second one. -/
def ofTable (lines : List String) : CharSet :=
  ⟨lines.flatMap fun line => readTable none 0 line.toList⟩

end CharSet
end TreeLint
