import TreeLint.Toml.Scalar
import TreeLint.Toml.Table

/-!
Reading TOML documents.
-/
namespace TreeLint.Toml

/-- Arrays and inline tables nest fewer than this deep, and keys have fewer parts. -/
def nestingLimit : Nat := 80

def isBareKeyChar (c : Char) : Bool := c.isAlphanum || c = '-' || c = '_'

/-- One part of a key. -/
def keyPart? (cs : List Char) : Option (String × List Char) :=
  match cs with
  | '"' :: rest => (basic? (rest.length + 1) rest).map fun (s, rest) => (String.ofList s, rest)
  | '\'' :: rest => (literal? rest).map fun (s, rest) => (String.ofList s, rest)
  | _ =>
    let name := cs.takeWhile isBareKeyChar
    if name.isEmpty then none else some (String.ofList name, cs.drop name.length)

/-- The parts of a key with dots between them, blanks around each part left out. -/
def key? : (parts : Nat) → List Char → Option (List String × List Char)
  | 0, _ => none
  | n + 1, cs => do
    let (part, rest) ← keyPart? (skipBlanks cs)
    match skipBlanks rest with
    | '.' :: rest => (key? n rest).map fun (parts, rest) => (part :: parts, rest)
    | rest => return ([part], rest)

/-- A comment up to the end of its line. -/
def skipComment? (cs : List Char) : Option (List Char) :=
  match cs with
  | '#' :: rest =>
    let rest := rest.dropWhile isPrintable
    match rest with
    | [] => some []
    | _ => (newline? rest).map fun _ => rest
  | _ => some cs

/-- Skips blanks, line breaks and comments. -/
def skipTrivia? : (fuel : Nat) → List Char → Option (List Char)
  | 0, _ => none
  | n + 1, cs =>
    match skipLines cs with
    | '#' :: rest => (skipComment? ('#' :: rest)).bind (skipTrivia? n)
    | cs => some cs

mutual

/-- One value. Containers nest fewer than `depth` deep. -/
def value? (fuel depth : Nat) (cs : List Char) : Option (Value × List Char) :=
  match fuel with
  | 0 => none
  | n + 1 =>
    match cs with
    | '[' :: rest =>
      if depth ≤ 1 then none
      else (items? n (depth - 1) rest).map fun (xs, rest) => (.array xs, rest)
    | '\x7b' :: rest =>
      if depth ≤ 1 then none
      else do
        let (entries, rest) ← match skipBlanks rest with
          | '\x7d' :: rest => some ([], rest)
          | rest => pairs? n (depth - 1) [] rest
        return (.ofMembers (membersOf entries), rest)
    | _ => scalar? cs

/-- The items of an array up to its closing bracket. A comma may follow the last one. -/
def items? (fuel depth : Nat) (cs : List Char) : Option (List Value × List Char) :=
  match fuel with
  | 0 => none
  | n + 1 => do
    match ← skipTrivia? (cs.length + 1) cs with
    | ']' :: rest => return ([], rest)
    | cs =>
      let (v, rest) ← value? n depth cs
      match ← skipTrivia? (rest.length + 1) rest with
      | ']' :: rest => return ([v], rest)
      | ',' :: rest =>
        let (vs, rest) ← items? n depth rest
        return (v :: vs, rest)
      | _ => none

/-- The pairs of an inline table up to its closing brace. -/
def pairs? (fuel depth : Nat) (entries : Entries) (cs : List Char) :
    Option (Entries × List Char) :=
  match fuel with
  | 0 => none
  | n + 1 => do
    let (path, rest) ← key? (nestingLimit - 1) cs
    let rest ← expect? '=' rest
    let (v, rest) ← value? n depth (skipBlanks rest)
    let key ← path.getLast?
    let entries ← setDotted? key v path.dropLast entries
    match skipBlanks rest with
    | ',' :: rest => pairs? n depth entries rest
    | '\x7d' :: rest => return (entries, rest)
    | _ => none

end

/-- The rest of a line that holds nothing more than a comment. -/
def lineEnd? (cs : List Char) : Option (List Char) := do
  match ← skipComment? (skipBlanks cs) with
  | [] => return []
  | rest => newline? rest

/-- The lines of a document. -/
def lines? : (fuel : Nat) → Draft → List Char → Option Draft
  | 0, _, _ => none
  | n + 1, d, cs =>
    match skipBlanks cs with
    | [] => some d
    | '[' :: '[' :: rest => do
      let (path, rest) ← key? (nestingLimit - 1) rest
      let rest ← expect? ']' rest
      let rest ← expect? ']' rest
      lines? n (← d.openArray? path) (← lineEnd? rest)
    | '[' :: rest => do
      let (path, rest) ← key? (nestingLimit - 1) rest
      let rest ← expect? ']' rest
      lines? n (← d.openTable? path) (← lineEnd? rest)
    | cs =>
      match lineEnd? cs with
      | some rest => lines? n d rest
      | none => do
        let (path, rest) ← key? (nestingLimit - 1) cs
        let rest ← expect? '=' rest
        let (v, rest) ← value? (rest.length + 1) nestingLimit (skipBlanks rest)
        lines? n (← d.set? path v) (← lineEnd? rest)

/-- The table that a text describes. A byte order mark in front is left out. -/
def read? (text : String) : Option Value := do
  let cs := match text.toList with
    | '\uFEFF' :: rest => rest
    | cs => cs
  let d ← lines? (cs.length + 1) {} cs
  return .ofMembers (membersOf (← d.close?))

end TreeLint.Toml
