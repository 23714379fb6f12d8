import TreeLint.Regex.Basic
import TreeLint.Regex.Layout

/-!
The memory that expressions take. Each is made into two automata, of which one reads forward and the
other backward; an expression is refused if either does not fit.
-/
namespace TreeLint.Regex

def literal? : Regex → Option (List Char)
  | .literal cs => some cs
  | _ => none

/-- Lays out an expression that stands after `before` alternatives to it. -/
def layOut (reading : Reading) : Regex → (before : Nat) → Layout → Layout
  | .empty, n, l | .look _, n, l => (l.add 1 0).join n
  | .literal cs, n, l => (l.add (cs.flatMap Unicode.Utf8.encode).length 0).join n
  | .set s, n, l => (l.addSet reading s).join n
  | .group body, n, l =>
    match reading with
    | .forward => ((layOut reading body 0 (l.add 1 0)).add 1 0).join n
    | .backward => (layOut reading body 0 l).join n
  | .seq a b, n, l =>
    match reading with
    | .forward => (layOut reading b 0 (layOut reading a 0 l)).join n
    | .backward => (layOut reading a 0 (layOut reading b 0 l)).join n
  | .alt a b, n, l =>
    match if n = 0 then (a.ways ++ b.ways).mapM literal? else none with
    | some words => l.addLiterals reading words
    | none => layOut reading b (n + 1) ((layOut reading a 0 l).join n)
  | .repeat body least most _, n, l =>
    let once := layOut reading body 0
    let l := match least, most with
      | 0, some 1 => (once (l.add 1 0)).add 1 8
      | 0, none => if body.alwaysReads then (once (l.add 1 0)).add 0 4 else (once l).add 3 16
      | least, none => (Layout.times once least l).add 1 4
      | least, some most =>
        if least = most then Layout.times once least l
        else
          let l := Layout.times once least (if least = 0 then l.add 1 0 else l)
          Layout.times (fun l => (once (l.add 1 0)).add 0 8) (most - least) (l.add 1 0)
    l.join n

/-- The automaton of an expression. Unless the expression is anchored where reading starts, a loop
goes before it; groups are marked when reading forward. -/
def layout (reading : Reading) (r : Regex) : Layout :=
  match reading with
  | .forward =>
    let start : Layout := if r.startsAnchored then ⟨1, 0⟩ else ⟨3, 16⟩
    (layOut reading r 0 (start.add 1 0)).add 2 0
  | .backward =>
    let start : Layout := if r.endsAnchored then ⟨1, 0⟩ else ⟨3, 16⟩
    (layOut reading r 0 start).add 1 0

/-- Whether the memory for an expression is granted. -/
def fits (r : Regex) : Bool := (r.layout .forward).fits && (r.layout .backward).fits

end TreeLint.Regex
