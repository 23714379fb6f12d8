import TreeLint.Value

/-!
The grammar of JSON texts, apart from what the parts of a text mean: numbers keep their digits,
objects keep every member in the order of writing.
-/
namespace TreeLint.Json

/-- A number as written. -/
structure NumberText where
  negative : Bool
  whole : List Nat
  fraction : Option (List Nat)
  exponent : Option (Bool × List Nat)
deriving Repr

/-- A text as a tree. A string that names half of a surrogate pair has no characters. -/
inductive Node
  | null
  | bool (b : Bool)
  | number (n : NumberText)
  | string (s : Option String)
  | array (items : List Node)
  | object (members : List (Option String × Node))
deriving Repr, Inhabited

def isSpace (c : Char) : Bool := c = ' ' || c = '\n' || c = '\t' || c = '\r'

def skipSpace (cs : List Char) : List Char := cs.dropWhile isSpace

def digit (c : Char) : Nat := c.toNat - '0'.toNat

/-- The decimal digits that a text starts with, and the rest. -/
def digits (cs : List Char) : List Nat × List Char :=
  ((cs.takeWhile Char.isDigit).map digit, cs.dropWhile Char.isDigit)

def digits1? (cs : List Char) : Option (List Nat × List Char) :=
  match digits cs with
  | ([], _) => none
  | found => some found

/-- The whole part: a zero alone, or digits that start with another one. -/
def whole? (cs : List Char) : Option (List Nat × List Char) :=
  match digits1? cs with
  | some (0 :: _ :: _, _) => none
  | found => found

def fraction? : List Char → Option (Option (List Nat) × List Char)
  | '.' :: rest => (digits1? rest).map fun (ds, rest) => (some ds, rest)
  | cs => some (none, cs)

/-- The exponent, with whether it is positive. -/
def exponent? : List Char → Option (Option (Bool × List Nat) × List Char)
  | c :: rest =>
    if c = 'e' ∨ c = 'E' then
      match rest with
      | '+' :: rest => (digits1? rest).map fun (ds, rest) => (some (true, ds), rest)
      | '-' :: rest => (digits1? rest).map fun (ds, rest) => (some (false, ds), rest)
      | _ => (digits1? rest).map fun (ds, rest) => (some (true, ds), rest)
    else some (none, c :: rest)
  | [] => some (none, [])

def number? (negative : Bool) (cs : List Char) : Option (NumberText × List Char) := do
  let (whole, cs) ← whole? cs
  let (fraction, cs) ← fraction? cs
  let (exponent, cs) ← exponent? cs
  return (⟨negative, whole, fraction, exponent⟩, cs)

def hexDigit? (c : Char) : Option Nat :=
  if c.isDigit then some (c.toNat - '0'.toNat)
  else if 'a' ≤ c ∧ c ≤ 'f' then some (c.toNat - 'a'.toNat + 10)
  else if 'A' ≤ c ∧ c ≤ 'F' then some (c.toNat - 'A'.toNat + 10)
  else none

def hex? (cs : List Char) : Option Nat :=
  cs.foldlM (fun n c => (hexDigit? c).map (16 * n + ·)) 0

def isHighSurrogate (n : Nat) : Bool := 0xD800 ≤ n && n < 0xDC00

def isLowSurrogate (n : Nat) : Bool := 0xDC00 ≤ n && n < 0xE000

def simpleEscape? : Char → Option Char
  | '"' => some '"'
  | '\\' => some '\\'
  | '/' => some '/'
  | 'b' => some '\x08'
  | 'f' => some '\x0c'
  | 'n' => some '\n'
  | 'r' => some '\r'
  | 't' => some '\t'
  | _ => none

/-- A part of a string: a character, or a code unit that was written in hexadecimal. -/
inductive Unit16
  | char (c : Char)
  | code (n : Nat)

/-- The parts of a string up to its closing quote, and the rest of the text. -/
def units? : List Char → Option (List Unit16 × List Char)
  | '"' :: rest => some ([], rest)
  | '\\' :: 'u' :: a :: b :: c :: d :: rest => do
    let n ← hex? [a, b, c, d]
    let (us, rest) ← units? rest
    return (.code n :: us, rest)
  | '\\' :: e :: rest => do
    let c ← simpleEscape? e
    let (us, rest) ← units? rest
    return (.char c :: us, rest)
  | c :: rest => do
    guard (0x20 ≤ c.toNat)
    let (us, rest) ← units? rest
    return (.char c :: us, rest)
  | [] => none

/-- Joins surrogate pairs; one half alone makes no characters. -/
def characters? : List Unit16 → Option (List Char)
  | [] => some []
  | .char c :: rest => (c :: ·) <$> characters? rest
  | .code n :: .code m :: rest =>
    if isHighSurrogate n then
      if isLowSurrogate m then
        (Char.ofNat (0x10000 + (n - 0xD800) * 0x400 + (m - 0xDC00)) :: ·) <$> characters? rest
      else none
    else if isLowSurrogate n then none
    else (Char.ofNat n :: ·) <$> characters? (.code m :: rest)
  | .code n :: rest =>
    if isHighSurrogate n || isLowSurrogate n then none
    else (Char.ofNat n :: ·) <$> characters? rest

/-- A string after its opening quote. -/
def string? (cs : List Char) : Option (Option String × List Char) := do
  let (us, rest) ← units? cs
  return ((characters? us).map String.ofList, rest)

def keyword? (word : String) (cs : List Char) : Option (List Char) :=
  if word.toList.isPrefixOf cs then some (cs.drop word.length) else none

mutual

/-- One node and the rest of the text, for a text of fewer than `fuel` characters. -/
def node? : (fuel : Nat) → List Char → Option (Node × List Char)
  | 0, _ => none
  | n + 1, cs =>
    match skipSpace cs with
    | '"' :: rest => (string? rest).map fun (s, rest) => (.string s, rest)
    | '[' :: rest =>
      match skipSpace rest with
      | ']' :: rest => some (.array [], rest)
      | rest => (items? n rest).map fun (xs, rest) => (.array xs, rest)
    | '\x7b' :: rest =>
      match skipSpace rest with
      | '\x7d' :: rest => some (.object [], rest)
      | rest => (members? n rest).map fun (ms, rest) => (.object ms, rest)
    | '-' :: rest => (number? true rest).map fun (x, rest) => (.number x, rest)
    | 'n' :: rest => (keyword? "ull" rest).map (.null, ·)
    | 't' :: rest => (keyword? "rue" rest).map (.bool true, ·)
    | 'f' :: rest => (keyword? "alse" rest).map (.bool false, ·)
    | rest => (number? false rest).map fun (x, rest) => (.number x, rest)

/-- The items of an array up to its closing bracket. -/
def items? : (fuel : Nat) → List Char → Option (List Node × List Char)
  | 0, _ => none
  | n + 1, cs => do
    let (x, rest) ← node? n cs
    match skipSpace rest with
    | ',' :: rest =>
      let (xs, rest) ← items? n rest
      return (x :: xs, rest)
    | ']' :: rest => return ([x], rest)
    | _ => none

/-- The members of an object up to its closing brace. -/
def members? : (fuel : Nat) → List Char → Option (List (Option String × Node) × List Char)
  | 0, _ => none
  | n + 1, cs =>
    match skipSpace cs with
    | '"' :: rest => do
      let (key, rest) ← string? rest
      match skipSpace rest with
      | ':' :: rest =>
        let (x, rest) ← node? n rest
        match skipSpace rest with
        | ',' :: rest =>
          let (ms, rest) ← members? n rest
          return ((key, x) :: ms, rest)
        | '\x7d' :: rest => return ([(key, x)], rest)
        | _ => none
      | _ => none
    | _ => none

end

/-- The tree of a whole text. -/
def parse? (text : String) : Option Node :=
  match node? (text.toList.length + 1) text.toList with
  | some (x, rest) => if (skipSpace rest).isEmpty then some x else none
  | none => none

end TreeLint.Json
