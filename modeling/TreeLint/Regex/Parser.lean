import TreeLint.Json.Text
import TreeLint.Regex.Footprint
import TreeLint.Unicode.Classes
import TreeLint.Unicode.Folding
import TreeLint.Unicode.Latest
import TreeLint.Unicode.Property

/-!
Reading regular expressions: alternatives, groups, repetitions, classes with set operations,
escapes and flags. There are no looks around and no references back.
-/
namespace TreeLint.Regex

/-- What the flags in force say. -/
structure Flags where
  caseless : Bool := false
  multiline : Bool := false
  dotAll : Bool := false
  lazyFirst : Bool := false
  unicode : Bool := true
  crlf : Bool := false
  verbose : Bool := false
deriving Repr, Inhabited

/-- Skips blanks and comments, from inside a comment or from outside. -/
def skipBlank (inComment : Bool) : List Char → List Char
  | [] => []
  | c :: rest =>
    if inComment then skipBlank (c ≠ '\n') rest
    else if Unicode.isSpace c then skipBlank false rest
    else if c = '#' then skipBlank true rest
    else c :: rest

namespace Flags

/-- In verbose expressions blanks and comments say nothing. -/
def skip (f : Flags) (cs : List Char) : List Char := if f.verbose then skipBlank false cs else cs

def set (f : Flags) (letter : Char) (on : Bool) : Option Flags :=
  match letter with
  | 'i' => some { f with caseless := on }
  | 'm' => some { f with multiline := on }
  | 's' => some { f with dotAll := on }
  | 'U' => some { f with lazyFirst := on }
  | 'u' => some { f with unicode := on }
  | 'R' => some { f with crlf := on }
  | 'x' => some { f with verbose := on }
  | _ => none

/-- All characters, or all bytes. -/
def everything (f : Flags) : CharSet := if f.unicode then .full else .ofRange 0 0xFF

/-- Without Unicode a set of bytes must keep to ASCII, so that matches end between characters. -/
def check? (f : Flags) (s : CharSet) : Option CharSet :=
  if f.unicode || (s.diff (.ofRange 0 0x7F)).isEmpty then some s else none

def closeUnderCase (f : Flags) (s : CharSet) : CharSet :=
  if !f.caseless then s
  else if f.unicode then Unicode.closeUnderCase s
  else Unicode.closeUnderAsciiCase s

def complement (f : Flags) (negated : Bool) (s : CharSet) : CharSet :=
  if negated then f.everything.diff s else s

/-- A class as it stands in an expression: case first, then complement. -/
def classSet? (f : Flags) (negated : Bool) (s : CharSet) : Option CharSet :=
  f.check? (f.complement negated (f.closeUnderCase s))

end Flags

/-- What one escape or one plain character stands for. -/
inductive Atom
  | char (c : Char)
  | byte (n : Nat)
  | set (s : CharSet)
  | look (l : Look)

/-- Characters that mean something of their own, or did or may come to. -/
def isEscapable (c : Char) : Bool :=
  c.toNat < 128 && !c.isAlphanum && c != '<' && c != '>'

def hexNumber? (digits : List Char) : Option Char := do
  let n ← Json.hex? digits
  if h : n.isValidChar then return Char.ofNatAux n h else none

/-- The hexadecimal digits up to a closing brace. -/
def bracedHex? (f : Flags) : (fuel : Nat) → List Char → Option (List Char × List Char)
  | 0, _ => none
  | n + 1, cs =>
    match f.skip cs with
    | [] => none
    | '\x7d' :: rest => some ([], f.skip rest)
    | c :: rest =>
      if (Json.hexDigit? c).isNone then none
      else (bracedHex? f n rest).map fun (ds, rest) => (c :: ds, rest)

/-- A given number of hexadecimal digits. -/
def fixedHex? (f : Flags) : Nat → List Char → Option (List Char × List Char)
  | 0, cs => some ([], cs)
  | n + 1, cs =>
    match f.skip cs with
    | c :: rest =>
      if (Json.hexDigit? c).isNone then none
      else (fixedHex? f n rest).map fun (ds, rest) => (c :: ds, rest)
    | [] => none

/-- A character by its number, after the letter that opens the escape. Without Unicode two digits
that lead beyond ASCII give a byte. -/
def hexEscape? (f : Flags) (count : Nat) (cs : List Char) : Option (Atom × List Char) :=
  match f.skip cs with
  | '\x7b' :: rest => do
    let (ds, rest) ← bracedHex? f (rest.length + 1) rest
    guard !ds.isEmpty
    return (.char (← hexNumber? ds), rest)
  | cs => do
    let (ds, rest) ← fixedHex? f count cs
    let c ← hexNumber? ds
    let isByte := !f.unicode && count = 2 && 0x80 ≤ c.toNat
    return (if isByte then .byte c.toNat else .char c, f.skip rest)

/-- The text up to a closing brace. -/
def bracedName? (f : Flags) : (fuel : Nat) → List Char → Option (List Char × List Char)
  | 0, _ => none
  | n + 1, cs =>
    match f.skip cs with
    | [] => none
    | '\x7d' :: rest => some ([], rest)
    | c :: rest => (bracedName? f n rest).map fun (name, rest) => (c :: name, rest)

/-- Splits a text before the first place where `mark` stands. -/
def cutAt (mark : List Char) : List Char → Option (List Char × List Char)
  | [] => none
  | c :: rest =>
    if mark.isPrefixOf (c :: rest) then some ([], (c :: rest).drop mark.length)
    else (cutAt mark rest).map fun (before, after) => (c :: before, after)

/-- The set that a property is written for, and whether its complement is meant. -/
def propertySet? (name : List Char) : Option (CharSet × Bool) :=
  match cutAt ['!', '='] name with
  | some (key, value) => (Unicode.Property.findValue? key value).map (·, true)
  | none =>
    match cutAt [':'] name <|> cutAt ['='] name with
    | some (key, value) => (Unicode.Property.findValue? key value).map (·, false)
    | none => (Unicode.Property.find? name).map (·, false)

/-- A class of a property, after the letter that opens the escape. -/
def propertyEscape? (f : Flags) (negated : Bool) (cs : List Char) : Option (CharSet × List Char) :=
  match f.skip cs with
  | '\x7b' :: rest => do
    let (name, rest) ← bracedName? f (rest.length + 1) rest
    let (s, other) ← propertySet? name
    guard f.unicode
    return (← f.classSet? (negated != other) s, rest)
  | '\\' :: _ => none
  | c :: rest => do
    let (s, _) ← propertySet? [c]
    guard f.unicode
    return (← f.classSet? negated s, f.skip rest)
  | [] => none

def asciiWords : CharSet := ⟨[0x30, 0x3A, 0x41, 0x5B, 0x5F, 0x60, 0x61, 0x7B]⟩

/-- Digits, blanks or words, by the small letter of the escape. -/
def shorthand (f : Flags) (letter : Char) : CharSet :=
  match letter with
  | 'd' => if f.unicode then Unicode.digits else .ofRange 0x30 0x39
  | 's' => if f.unicode then Unicode.spaces else ⟨[0x9, 0xE, 0x20, 0x21]⟩
  | _ => if f.unicode then Unicode.words else asciiWords

def boundaryName? (ascii : Bool) : List Char → Option Look
  | ['s', 't', 'a', 'r', 't'] => some (.wordStart ascii)
  | ['e', 'n', 'd'] => some (.wordEnd ascii)
  | ['s', 't', 'a', 'r', 't', '-', 'h', 'a', 'l', 'f'] => some (.noWordBefore ascii)
  | ['e', 'n', 'd', '-', 'h', 'a', 'l', 'f'] => some (.noWordAfter ascii)
  | _ => none

def isBoundaryChar (c : Char) : Bool := c.isAlpha || c = '-'

/-- A boundary, which may have a name in braces. Braces that hold no name are a repetition. -/
def boundaryEscape? (f : Flags) (cs : List Char) : Option (Look × List Char) :=
  let plain : Look := .boundary !f.unicode
  match cs with
  | '\x7b' :: rest =>
    match f.skip rest with
    | [] => none
    | c :: more =>
      if !isBoundaryChar c then some (plain, cs)
      else do
        let (name, rest) ← bracedName? f (rest.length + 1) (c :: more)
        return (← boundaryName? (!f.unicode) name, rest)
  | _ => some (plain, cs)

/-- What follows a backslash. -/
def escape? (f : Flags) : List Char → Option (Atom × List Char)
  | [] => none
  | c :: rest =>
    if c.isDigit then none
    else if isEscapable c then some (.char c, rest)
    else
      match c with
      | 'x' => hexEscape? f 2 rest
      | 'u' => hexEscape? f 4 rest
      | 'U' => hexEscape? f 8 rest
      | 'p' => (propertyEscape? f false rest).map fun (s, rest) => (.set s, rest)
      | 'P' => (propertyEscape? f true rest).map fun (s, rest) => (.set s, rest)
      | 'd' | 's' | 'w' => some (.set (shorthand f c), rest)
      | 'D' | 'S' | 'W' => do
        let s ← f.check? (f.complement true (shorthand f c.toLower))
        return (.set s, rest)
      | 'a' => some (.char '\x07', rest)
      | 'f' => some (.char '\x0c', rest)
      | 't' => some (.char '\t', rest)
      | 'n' => some (.char '\n', rest)
      | 'r' => some (.char '\r', rest)
      | 'v' => some (.char '\x0b', rest)
      | 'A' => some (.look .textStart, rest)
      | 'z' => some (.look .textEnd, rest)
      | 'b' => (boundaryEscape? f rest).map fun (l, rest) => (.look l, rest)
      | 'B' => some (.look (.noBoundary !f.unicode), rest)
      | '<' => some (.look (.wordStart !f.unicode), rest)
      | '>' => some (.look (.wordEnd !f.unicode), rest)
      | _ => none

def asciiClass? (name : String) : Option CharSet :=
  match name with
  | "alnum" => some ⟨[0x30, 0x3A, 0x41, 0x5B, 0x61, 0x7B]⟩
  | "alpha" => some ⟨[0x41, 0x5B, 0x61, 0x7B]⟩
  | "ascii" => some ⟨[0x0, 0x80]⟩
  | "blank" => some ⟨[0x9, 0xA, 0x20, 0x21]⟩
  | "cntrl" => some ⟨[0x0, 0x20, 0x7F, 0x80]⟩
  | "digit" => some ⟨[0x30, 0x3A]⟩
  | "graph" => some ⟨[0x21, 0x7F]⟩
  | "lower" => some ⟨[0x61, 0x7B]⟩
  | "print" => some ⟨[0x20, 0x7F]⟩
  | "punct" => some ⟨[0x21, 0x30, 0x3A, 0x41, 0x5B, 0x61, 0x7B, 0x7F]⟩
  | "space" => some ⟨[0x9, 0xE, 0x20, 0x21]⟩
  | "upper" => some ⟨[0x41, 0x5B]⟩
  | "word" => some asciiWords
  | "xdigit" => some ⟨[0x30, 0x3A, 0x41, 0x47, 0x61, 0x67]⟩
  | _ => none

/-- A class such as `[:alpha:]`, after its opening bracket, and whether its complement is meant. -/
def namedClass? : List Char → Option (CharSet × Bool × List Char)
  | ':' :: rest => do
    let (negated, rest) := match rest with
      | '^' :: rest => (true, rest)
      | _ => (false, rest)
    let name := rest.takeWhile (· ≠ ':')
    match rest.drop name.length with
    | ':' :: ']' :: rest => return (← asciiClass? (String.ofList name), negated, rest)
    | _ => none
  | _ => none

inductive SetOp
  | inter
  | diff
  | symmDiff

/-- The operator that a text starts with. -/
def setOp? : List Char → Option (SetOp × List Char)
  | '&' :: '&' :: rest => some (.inter, rest)
  | '-' :: '-' :: rest => some (.diff, rest)
  | '~' :: '~' :: rest => some (.symmDiff, rest)
  | _ => none

/-- The members of a class that have been read: their set, how many they are, and how deep brackets
and operators nest in them. -/
structure Members where
  set : CharSet
  count : Nat := 0
  depth : Nat := 0

namespace Members

def add (m : Members) (s : CharSet) (depth : Nat) : Members :=
  ⟨m.set.union s, m.count + 1, max m.depth depth⟩

/-- Several members nest one deeper than one does. -/
def nesting (m : Members) : Nat := if m.count < 2 then m.depth else m.depth + 1

end Members

/-- The left side of an operator that waits for its right side. -/
structure Waiting where
  left : CharSet
  depth : Nat
  op : SetOp

/-- The set of some members with what waits for them, and how deep it nests. -/
def Waiting.close (f : Flags) (waiting : Option Waiting) (m : Members) : CharSet × Nat :=
  match waiting with
  | none => (m.set, m.nesting)
  | some ⟨left, depth, op⟩ =>
    let left := f.closeUnderCase left
    let right := f.closeUnderCase m.set
    let s := match op with
      | .inter => left.inter right
      | .diff => left.diff right
      | .symmDiff => left.symmDiff right
    (s, max depth m.nesting + 1)

/-- One character of a class, or an escape in it. -/
def classAtom? (f : Flags) : List Char → Option (Atom × List Char)
  | [] => none
  | '\\' :: rest => escape? f rest
  | c :: rest => some (.char c, rest)

/-- The number of a character or byte in a class. Without Unicode no character beyond ASCII may
stand there. -/
def classNumber? (f : Flags) : Atom → Option Nat
  | .char c => if f.unicode || c.toNat < 0x80 then some c.toNat else none
  | .byte n => some n
  | _ => none

def classItem? (f : Flags) : Atom → Option CharSet
  | .set s => some s
  | a => (classNumber? f a).map fun n => .ofRange n n

/-- The next character that is no blank, nor the first `#`; if there is none, the next of all. -/
def glance (marked : Bool) : List Char → Option Char
  | [] => none
  | c :: rest =>
    if Unicode.isSpace c then glance marked rest
    else if c = '#' && !marked then glance true rest
    else some c

/-- The character after a dash by which it is told what the dash stands for. -/
def Flags.afterDash (f : Flags) (cs : List Char) : Option Char :=
  if f.verbose then (glance false cs).or cs.head? else cs.head?

/-- A member of a class: a range, a character, or a class by an escape. -/
def classRange? (f : Flags) (cs : List Char) : Option (CharSet × List Char) := do
  let (first, rest) ← classAtom? f cs
  match f.skip rest with
  | [] => none
  | '-' :: more =>
    let next := f.afterDash more
    if next = some ']' ∨ next = some '-' then return (← classItem? f first, '-' :: more)
    else do
      let (last, rest) ← classAtom? f (f.skip more)
      let lo ← classNumber? f first
      let hi ← classNumber? f last
      guard (lo ≤ hi)
      return ((CharSet.ofRange lo hi).inter .full, rest)
  | rest => return (← classItem? f first, rest)

/-- Dashes at the start of a class stand for themselves. -/
def leadingDashes (f : Flags) (m : Members) : (fuel : Nat) → List Char → Members × List Char
  | 0, cs => (m, cs)
  | n + 1, cs =>
    match cs with
    | '-' :: rest => leadingDashes f (m.add (.single '-') 0) n (f.skip rest)
    | _ => (m, cs)

/-- What stands at the start of a class after its opening bracket: whether it is a complement, and
the members that stand for themselves there. -/
def classStart (f : Flags) (cs : List Char) : Bool × Members × List Char :=
  let (negated, cs) := match f.skip cs with
    | '^' :: rest => (true, f.skip rest)
    | cs => (false, cs)
  let (m, cs) := leadingDashes f ⟨.empty, 0, 0⟩ cs.length cs
  match cs with
  | ']' :: rest =>
    if m.count = 0 then (negated, m.add (.single ']') 0, f.skip rest) else (negated, m, cs)
  | _ => (negated, m, cs)

mutual

/-- A class after its opening bracket, with how deep it nests. -/
def class? (f : Flags) : (fuel : Nat) → List Char → Option (CharSet × Nat × List Char)
  | 0, _ => none
  | n + 1, cs => do
    let (negated, m, cs) := classStart f cs
    let (s, depth, rest) ← classBody? f n none m cs
    return (← f.classSet? negated s, depth + 1, rest)

/-- The members of a class up to its closing bracket, besides those in `m`. -/
def classBody? (f : Flags) (fuel : Nat) (waiting : Option Waiting) (m : Members)
    (cs : List Char) : Option (CharSet × Nat × List Char) :=
  match fuel with
  | 0 => none
  | n + 1 =>
    match f.skip cs with
    | [] => none
    | ']' :: rest =>
      let (s, depth) := Waiting.close f waiting m
      some (s, depth, rest)
    | '[' :: rest =>
      match namedClass? rest with
      | some (named, negated, rest) => do
        classBody? f n waiting (m.add (← f.classSet? negated named) 0) rest
      | none => do
        let (nested, depth, rest) ← class? f n rest
        classBody? f n waiting (m.add nested depth) rest
    | cs =>
      match setOp? cs with
      | some (op, rest) =>
        let (s, depth) := Waiting.close f waiting m
        classBody? f n (some ⟨s, depth, op⟩) ⟨.empty, 0, 0⟩ rest
      | none => do
        let (item, rest) ← classRange? f cs
        classBody? f n waiting (m.add item 0) rest

end

/-- Decimal digits. -/
def digits (f : Flags) : (fuel : Nat) → List Char → List Nat × List Char
  | n + 1, c :: rest =>
    if c.isDigit then
      let (ds, rest) := digits f n (f.skip rest)
      (Json.digit c :: ds, rest)
    else ([], c :: rest)
  | _, cs => ([], cs)

/-- A number between blanks, if it fits an unsigned 32-bit word. -/
def count? (f : Flags) (cs : List Char) : Option (Nat × List Char) := do
  let cs := cs.dropWhile Unicode.isSpace
  let (ds, rest) := digits f cs.length cs
  let n := ds.foldl (fun n d => 10 * n + d) 0
  guard (!ds.isEmpty && n < Nat.pow 2 32)
  return (n, f.skip (rest.dropWhile Unicode.isSpace))

/-- How often a body is repeated, after the opening brace. -/
def bounds? (f : Flags) (cs : List Char) : Option (Nat × Option Nat × List Char) := do
  let (least, rest) ← count? f (f.skip cs)
  match rest with
  | '\x7d' :: rest => return (least, some least, f.skip rest)
  | ',' :: rest =>
    match f.skip rest with
    | '\x7d' :: rest => return (least, none, f.skip rest)
    | rest =>
      let (most, rest) ← count? f rest
      match rest with
      | '\x7d' :: rest =>
        guard (least ≤ most)
        return (least, some most, f.skip rest)
      | _ => none
  | _ => none

/-- A question mark after a repetition turns its preference round. -/
def isGreedy (f : Flags) (cs : List Char) : Bool × List Char :=
  match cs with
  | '?' :: rest => (f.lazyFirst, rest)
  | _ => (!f.lazyFirst, cs)

/-- The name of a group up to its closing angle bracket. -/
def groupName? (cs : List Char) : Option (List Char × List Char) :=
  let isLetter (c : Char) : Bool :=
    if c.toNat < 128 then c.isAlpha else Unicode.Latest.letters.contains c
  let isNumber (c : Char) : Bool :=
    if c.toNat < 128 then c.isDigit else Unicode.Latest.numbers.contains c
  let isNameChar (c : Char) : Bool :=
    isLetter c || isNumber c || c = '_' || c = '.' || c = '[' || c = ']'
  let name := cs.takeWhile (· ≠ '>')
  match cs.drop name.length with
  | _ :: rest =>
    if name.head?.any (fun c => isLetter c || c = '_') && name.all isNameChar then
      some (name, rest)
    else none
  | [] => none

/-- Reads flags up to a colon or a closing parenthesis; gives that character too. No flag stands
twice, and a minus stands once, before the flags that it turns off. -/
def flags? (f : Flags) (on : Bool) (seen : List Char) :
    List Char → Option (Flags × Char × List Char)
  | [] => none
  | c :: rest =>
    if c = ':' ∨ c = ')' then
      if seen.head? = some '-' then none
      else if c = ')' && seen.isEmpty then none
      else some (f, c, rest)
    else if seen.contains c then none
    else if c = '-' then flags? f false (c :: seen) rest
    else do
      let f ← f.set c on
      flags? f on (c :: seen) rest

/-- An atom as an expression. A byte beyond ASCII is part of a character, and none alone. -/
def atomRegex? (f : Flags) : Atom → Option Regex
  | .char c => some (ofSet (f.closeUnderCase (.single c)))
  | .byte _ => none
  | .set s => some (ofSet s)
  | .look l => some (.look l)

def dot? (f : Flags) : Option Regex :=
  let excluded : CharSet :=
    if f.dotAll then .empty
    else if f.crlf then (CharSet.single '\n').union (.single '\r')
    else .single '\n'
  (f.check? (f.everything.diff excluded)).map ofSet

def startLook (f : Flags) : Look :=
  if !f.multiline then .textStart else if f.crlf then .lineStartCrlf else .lineStart

def endLook (f : Flags) : Look :=
  if !f.multiline then .textEnd else if f.crlf then .lineEndCrlf else .lineEnd

/-- What a group opens with, after its parenthesis: a name, flags, or nothing. With flags it only
holds parts together, or is no group at all. -/
inductive Opening
  | group (name : Option (List Char))
  | together (f : Flags)
  | flags (f : Flags)

def startsWith (s : String) (cs : List Char) : Bool := s.toList.isPrefixOf cs

def opening? (f : Flags) (cs : List Char) : Option (Opening × List Char) :=
  let cs := f.skip cs
  if ["?=", "?!", "?<=", "?<!"].any (startsWith · cs) then none
  else if startsWith "?P<" cs then
    (groupName? (cs.drop 3)).map fun (name, rest) => (.group (some name), rest)
  else if startsWith "?<" cs then
    (groupName? (cs.drop 2)).map fun (name, rest) => (.group (some name), rest)
  else
    match cs with
    | '?' :: rest =>
      (flags? f true [] rest).map fun (g, stop, rest) =>
        (if stop = ':' then .together g else .flags g, rest)
    | cs => some (.group none, cs)

/-- A part of an expression, with how deep it nests. A part that only sets flags is nothing. -/
structure Part where
  regex : Option Regex
  depth : Nat := 0

/-- The alternatives read so far and the parts of the one under way, both in reverse. -/
structure Partial where
  alternatives : List Part := []
  parts : List Part := []

namespace Partial

/-- How deep some parts nest: several of them one deeper than one does. -/
def nesting (parts : List Part) : Nat :=
  let deepest := (parts.map (·.depth)).foldr max 0
  if parts.length < 2 then deepest else deepest + 1

def push (p : Partial) (r : Regex) (depth : Nat) : Partial :=
  { p with parts := ⟨some r, depth⟩ :: p.parts }

/-- The parts under way, one after another. -/
def sequence (p : Partial) : Part :=
  ⟨some (seqAll (p.parts.reverse.filterMap (·.regex))), nesting p.parts⟩

/-- Ends the alternative under way. -/
def endAlternative (p : Partial) : Partial := ⟨p.sequence :: p.alternatives, []⟩

def close (p : Partial) : Regex × Nat :=
  let alternatives := p.endAlternative.alternatives
  (altAll (alternatives.reverse.filterMap (·.regex)), nesting alternatives)

/-- Repeats the last part, if there is one. -/
def repeatLast (p : Partial) (least : Nat) (most : Option Nat) (greedy : Bool) : Option Partial :=
  match p.parts with
  | ⟨some r, depth⟩ :: below =>
    some { p with parts := ⟨some (repeatOf r least most greedy), depth + 1⟩ :: below }
  | _ => none

end Partial

/-- Reads up to the end of a group or of the text; gives the expression and how deep it nests.
`names` are the groups named so far. -/
def expression? (fuel : Nat) (f : Flags) (names : List (List Char)) (p : Partial)
    (cs : List Char) : Option ((Regex × Nat) × List (List Char) × List Char) :=
  match fuel with
  | 0 => none
  | n + 1 =>
    match f.skip cs with
    | [] => some (p.close, names, [])
    | ')' :: rest => some (p.close, names, ')' :: rest)
    | '|' :: rest => expression? n f names p.endAlternative rest
    | '(' :: rest => do
      match ← opening? f rest with
      | (.flags g, rest) => expression? n g names { p with parts := ⟨none, 0⟩ :: p.parts } rest
      | (.together g, rest) =>
        match ← expression? n g names {} rest with
        | ((r, depth), names, ')' :: rest) => expression? n f names (p.push r (depth + 1)) rest
        | _ => none
      | (.group name, rest) =>
        guard !(name.any names.contains)
        match ← expression? n f (name.toList ++ names) {} rest with
        | ((r, depth), names, ')' :: rest) =>
          expression? n f names (p.push (.group r) (depth + 1)) rest
        | _ => none
    | '[' :: rest => do
      let (s, depth, rest) ← class? f (2 * rest.length + 2) rest
      expression? n f names (p.push (ofSet s) depth) rest
    | '?' :: rest => do
      let (greedy, rest) := isGreedy f rest
      expression? n f names (← p.repeatLast 0 (some 1) greedy) rest
    | '*' :: rest => do
      let (greedy, rest) := isGreedy f rest
      expression? n f names (← p.repeatLast 0 none greedy) rest
    | '+' :: rest => do
      let (greedy, rest) := isGreedy f rest
      expression? n f names (← p.repeatLast 1 none greedy) rest
    | '\x7b' :: rest => do
      let (least, most, rest) ← bounds? f rest
      let (greedy, rest) := isGreedy f rest
      expression? n f names (← p.repeatLast least most greedy) rest
    | '\\' :: rest => do
      let (atom, rest) ← escape? f rest
      expression? n f names (p.push (← atomRegex? f atom) 0) rest
    | '.' :: rest => do expression? n f names (p.push (← dot? f) 0) rest
    | '^' :: rest => expression? n f names (p.push (.look (startLook f)) 0) rest
    | '$' :: rest => expression? n f names (p.push (.look (endLook f)) 0) rest
    | c :: rest => do expression? n f names (p.push (← atomRegex? f (.char c)) 0) rest

/-- Groups, repetitions, classes and lists of parts nest at most this deep. -/
def depthLimit : Nat := 250

/-- Reads a regular expression. -/
def parse? (text : String) : Option Regex := do
  let cs := text.toList
  let ((r, depth), _, rest) ← expression? (cs.length + 1) {} [] {} cs
  guard (rest.isEmpty && depth ≤ depthLimit && r.fits)
  return r

end TreeLint.Regex
