import TreeLint.Json.Text

/-!
Strings, numbers and dates of TOML texts. Each reader gives what it read and the rest of the text.
-/
namespace TreeLint.Toml

def isBlank (c : Char) : Bool := c = ' ' || c = '\t'

def skipBlanks (cs : List Char) : List Char := cs.dropWhile isBlank

/-- A line break is a line feed, or a carriage return and a line feed. -/
def newline? : List Char → Option (List Char)
  | '\n' :: rest => some rest
  | '\r' :: '\n' :: rest => some rest
  | _ => none

/-- Characters that may stand in a string, in a comment and between lines of a string: the tab, and
everything that is no control character. -/
def isPrintable (c : Char) : Bool := c = '\t' || (0x20 ≤ c.toNat && c.toNat ≠ 0x7F)

def skipNewline (cs : List Char) : List Char := (newline? cs).getD cs

/-- Skips blanks and line breaks. -/
def skipLines : List Char → List Char
  | [] => []
  | '\r' :: '\n' :: rest => skipLines rest
  | c :: rest => if isBlank c || c = '\n' then skipLines rest else c :: rest

def codeEscape? (digits : List Char) : Option Char := do
  let n ← Json.hex? digits
  if h : n.isValidChar then return Char.ofNatAux n h else none

def letterEscape? : Char → Option Char
  | 'b' => some '\x08'
  | 't' => some '\t'
  | 'n' => some '\n'
  | 'f' => some '\x0c'
  | 'r' => some '\r'
  | '"' => some '"'
  | '\\' => some '\\'
  | _ => none

/-- One escape, after its backslash. -/
def escape? : List Char → Option (Char × List Char)
  | 'u' :: a :: b :: c :: d :: rest => (codeEscape? [a, b, c, d]).map (·, rest)
  | 'U' :: a :: b :: c :: d :: e :: f :: g :: h :: rest =>
    (codeEscape? [a, b, c, d, e, f, g, h]).map (·, rest)
  | c :: rest => (letterEscape? c).map (·, rest)
  | [] => none

/-- Puts a character in front of a text that was read. -/
def prepend (c : Char) : List Char × List Char → List Char × List Char
  | (text, rest) => (c :: text, rest)

/-- A string in double quotes on one line, after the opening quote. -/
def basic? : (fuel : Nat) → List Char → Option (List Char × List Char)
  | 0, _ => none
  | n + 1, cs =>
    match cs with
    | [] => none
    | '"' :: rest => some ([], rest)
    | '\\' :: rest => do
      let (c, rest) ← escape? rest
      (basic? n rest).map (prepend c)
    | c :: rest => if isPrintable c then (basic? n rest).map (prepend c) else none

/-- A string in single quotes on one line, after the opening quote. -/
def literal? : List Char → Option (List Char × List Char)
  | [] => none
  | '\'' :: rest => some ([], rest)
  | c :: rest => if isPrintable c then (literal? rest).map (prepend c) else none

/-- The quotes that a string of several lines ends with: up to two belong to the string, and three
close it. -/
def closing? (quote : Char) (cs : List Char) : Option (List Char × List Char) :=
  let count := min 5 (cs.takeWhile (· = quote)).length
  if count < 3 then none else some (List.replicate (count - 3) quote, cs.drop count)

/-- A string in three double quotes, after the opening ones. -/
def multiBasic? : (fuel : Nat) → List Char → Option (List Char × List Char)
  | 0, _ => none
  | n + 1, cs =>
    match cs with
    | [] => none
    | '"' :: rest =>
      match closing? '"' cs with
      | some found => some found
      | none => (multiBasic? n rest).map (prepend '"')
    | '\\' :: rest =>
      match newline? (skipBlanks rest) with
      | some rest => multiBasic? n (skipLines rest)
      | none => do
        let (c, rest) ← escape? rest
        (multiBasic? n rest).map (prepend c)
    | c :: rest =>
      match newline? cs with
      | some rest => (multiBasic? n rest).map (prepend '\n')
      | none => if isPrintable c then (multiBasic? n rest).map (prepend c) else none

/-- A string in three single quotes, after the opening ones. -/
def multiLiteral? : (fuel : Nat) → List Char → Option (List Char × List Char)
  | 0, _ => none
  | n + 1, cs =>
    match cs with
    | [] => none
    | '\'' :: rest =>
      match closing? '\'' cs with
      | some found => some found
      | none => (multiLiteral? n rest).map (prepend '\'')
    | c :: rest =>
      match newline? cs with
      | some rest => (multiLiteral? n rest).map (prepend '\n')
      | none => if isPrintable c then (multiLiteral? n rest).map (prepend c) else none

/-- A string of any of the four kinds. A line break right after three quotes is left out. -/
def string? (cs : List Char) : Option (List Char × List Char) :=
  match cs with
  | '"' :: '"' :: '"' :: rest => multiBasic? (rest.length + 1) (skipNewline rest)
  | '"' :: rest => basic? (rest.length + 1) rest
  | '\'' :: '\'' :: '\'' :: rest => multiLiteral? (rest.length + 1) (skipNewline rest)
  | '\'' :: rest => literal? rest
  | _ => none

/-- Digits in `p`, with single underscores between them. -/
def digitRun? (p : Char → Bool) : List Char → Option (List Char × List Char)
  | [] => none
  | [c] => if p c then some ([c], []) else none
  | c :: d :: rest =>
    if !p c then none
    else if d = '_' then (digitRun? p rest).map (prepend c)
    else if p d then (digitRun? p (d :: rest)).map (prepend c)
    else some ([c], d :: rest)

def sign (cs : List Char) : Bool × List Char :=
  match cs with
  | '-' :: rest => (true, rest)
  | '+' :: rest => (false, rest)
  | _ => (false, cs)

/-- Decimal digits, with no zero in front of others. -/
def decimal? (cs : List Char) : Option (List Char × List Char) :=
  match cs with
  | '0' :: rest => some (['0'], rest)
  | _ => digitRun? Char.isDigit cs

def number (base : Nat) (digits : List Char) : Nat :=
  digits.foldl (fun n c => base * n + (Json.hexDigit? c).getD 0) 0

/-- A whole number, if it fits a signed 64-bit word. -/
def signed? (negative : Bool) (n : Nat) : Option Int :=
  if negative then (if n ≤ Nat.pow 2 63 then some (-n) else none)
  else if n < Nat.pow 2 63 then some n else none

def isOctal (c : Char) : Bool := '0' ≤ c && c ≤ '7'

def isBinary (c : Char) : Bool := c = '0' || c = '1'

def integer? (cs : List Char) : Option (Value × List Char) :=
  let based (base : Nat) (p : Char → Bool) (rest : List Char) : Option (Value × List Char) := do
    let (ds, rest) ← digitRun? p rest
    return (.int (← signed? false (number base ds)), rest)
  match cs with
  | '0' :: 'x' :: rest => based 16 (fun c => (Json.hexDigit? c).isSome) rest
  | '0' :: 'o' :: rest => based 8 isOctal rest
  | '0' :: 'b' :: rest => based 2 isBinary rest
  | _ => do
    let (negative, rest) := sign cs
    let (ds, rest) ← decimal? rest
    return (.int (← signed? negative (number 10 ds)), rest)

/-- The digits of an exponent, with its sign. -/
def exponent? : List Char → Option (Int × List Char)
  | c :: rest =>
    if c = 'e' ∨ c = 'E' then do
      let (negative, rest) := sign rest
      let (ds, rest) ← digitRun? Char.isDigit rest
      let n : Int := number 10 ds
      return (if negative then -n else n, rest)
    else none
  | [] => none

/-- The value of a decimal. Below the range of doubles it is zero; above it there is no number,
except that a negative one is infinite. -/
def floatValue? (negative : Bool) (digits : Nat) (e : Int) : Option Value :=
  let tooLarge : Option Value := if negative then some (.notFinite "-inf") else none
  if digits = 0 then some (.float ⟨negative, 0, Binary64.minExponent⟩)
  else
    let size := Binary64.digitCount digits + e
    if size < -400 then some (.float ⟨negative, 0, Binary64.minExponent⟩)
    else if 400 < size then tooLarge
    else
      match Binary64.ofDecimal? negative digits e with
      | some x => some (.float x)
      | none => tooLarge

def float? (cs : List Char) : Option (Value × List Char) := do
  let (negative, rest) := sign cs
  let (whole, rest) ← decimal? rest
  match rest with
  | '.' :: rest =>
    let (fraction, rest) ← digitRun? Char.isDigit rest
    let (e, rest) := (exponent? rest).getD (0, rest)
    let v ← floatValue? negative (number 10 (whole ++ fraction)) (e - fraction.length)
    return (v, rest)
  | _ =>
    let (e, rest) ← exponent? rest
    return (← floatValue? negative (number 10 whole) e, rest)

/-- Numbers that are not finite. No number at all has no sign. -/
def notFinite? (cs : List Char) : Option (Value × List Char) :=
  match sign cs with
  | (negative, 'i' :: 'n' :: 'f' :: rest) =>
    some (.notFinite (if negative then "-inf" else "inf"), rest)
  | (_, 'n' :: 'a' :: 'n' :: rest) => some (.notFinite "NaN", rest)
  | _ => none

/-- A number of exactly `n` digits, from `least` to `most`. -/
def field? (n least most : Nat) (cs : List Char) : Option (Nat × List Char) :=
  let ds := cs.take n
  let value := number 10 ds
  if ds.length = n ∧ ds.all Char.isDigit ∧ least ≤ value ∧ value ≤ most then some (value, cs.drop n)
  else none

def expect? (c : Char) (cs : List Char) : Option (List Char) :=
  match cs with
  | x :: rest => if x = c then some rest else none
  | [] => none

def daysIn (year month : Nat) : Nat :=
  if month = 2 then
    if year % 4 = 0 ∧ (year % 100 ≠ 0 ∨ year % 400 = 0) then 29 else 28
  else if [4, 6, 9, 11].contains month then 30
  else 31

def padded (width n : Nat) : String :=
  let digits := toString n
  String.ofList (List.replicate (width - digits.length) '0') ++ digits

def date? (cs : List Char) : Option (String × List Char) := do
  let (year, rest) ← field? 4 0 9999 cs
  let rest ← expect? '-' rest
  let (month, rest) ← field? 2 1 12 rest
  let rest ← expect? '-' rest
  let (day, rest) ← field? 2 1 31 rest
  guard (day ≤ daysIn year month)
  return (padded 4 year ++ "-" ++ padded 2 month ++ "-" ++ padded 2 day, rest)

/-- The fraction of a second: nine digits count, and zeros at the end are left out. -/
def secondFraction (cs : List Char) : String × List Char :=
  match cs with
  | '.' :: rest =>
    let ds := rest.takeWhile Char.isDigit
    if ds.isEmpty then ("", cs)
    else
      let kept := (((ds.take 9).reverse).dropWhile (· = '0')).reverse
      (if kept.isEmpty then "" else "." ++ String.ofList kept, rest.drop ds.length)
  | _ => ("", cs)

def time? (cs : List Char) : Option (String × List Char) := do
  let (hour, rest) ← field? 2 0 23 cs
  let rest ← expect? ':' rest
  let (minute, rest) ← field? 2 0 59 rest
  let rest ← expect? ':' rest
  let (second, rest) ← field? 2 0 60 rest
  let (fraction, rest) := secondFraction rest
  return (padded 2 hour ++ ":" ++ padded 2 minute ++ ":" ++ padded 2 second ++ fraction, rest)

/-- The distance from universal time. No distance has no sign of its own. -/
def offset? (cs : List Char) : Option (String × List Char) :=
  match cs with
  | [] => none
  | c :: rest =>
    if c = 'Z' ∨ c = 'z' then some ("Z", rest)
    else if c = '+' ∨ c = '-' then do
      let (hour, rest) ← field? 2 0 23 rest
      let rest ← expect? ':' rest
      let (minute, rest) ← field? 2 0 59 rest
      let sign := if c = '-' ∧ 60 * hour + minute ≠ 0 then "-" else "+"
      return (sign ++ padded 2 hour ++ ":" ++ padded 2 minute, rest)
    else none

/-- A time after a date, with or without an offset. -/
def dateTimeTail (cs : List Char) : String × List Char :=
  match cs with
  | c :: rest =>
    if c = 'T' ∨ c = 't' ∨ c = ' ' then
      match time? rest with
      | some (time, rest) =>
        let (offset, rest) := (offset? rest).getD ("", rest)
        ("T" ++ time ++ offset, rest)
      | none => ("", cs)
    else ("", cs)
  | [] => ("", cs)

/-- A date, a time, or both, as text in its regular form. -/
def dateTime? (cs : List Char) : Option (String × List Char) :=
  match date? cs with
  | some (date, rest) =>
    let (tail, rest) := dateTimeTail rest
    some (date ++ tail, rest)
  | none => time? cs

/-- Dates and times are objects with one member of this name. -/
def dateTimeKey : String := "$__toml_private_datetime"

def keyword? (word : String) (cs : List Char) : Option (List Char) :=
  if word.toList.isPrefixOf cs then some (cs.drop word.length) else none

/-- A value that is neither array nor table. -/
def scalar? (cs : List Char) : Option (Value × List Char) :=
  match cs with
  | [] => none
  | c :: _ =>
    if c = '"' ∨ c = '\'' then (string? cs).map fun (s, rest) => (.string (String.ofList s), rest)
    else if c = 't' then (keyword? "true" cs).map (.bool true, ·)
    else if c = 'f' then (keyword? "false" cs).map (.bool false, ·)
    else
      (dateTime? cs).map (fun (s, rest) => (.object [(dateTimeKey, .string s)], rest))
        <|> float? cs <|> notFinite? cs <|> integer? cs

end TreeLint.Toml
