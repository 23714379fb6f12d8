import TreeLint.Value

/-!
Writing values as JSON, on one line or with an indent of two spaces.
-/
namespace TreeLint.Json

def hexChar (n : Nat) : Char := Nat.digitChar (n % 16)

/-- Quotes, backslashes and control characters are escaped, all else stands for itself. -/
def escapeChar (c : Char) : List Char :=
  match c with
  | '"' => ['\\', '"']
  | '\\' => ['\\', '\\']
  | '\n' => ['\\', 'n']
  | '\r' => ['\\', 'r']
  | '\t' => ['\\', 't']
  | '\x08' => ['\\', 'b']
  | '\x0c' => ['\\', 'f']
  | c =>
    if c.toNat < 0x20 then ['\\', 'u', '0', '0', hexChar (c.toNat / 16), hexChar c.toNat] else [c]

def quote (s : String) : String := "\"" ++ String.ofList (s.toList.flatMap escapeChar) ++ "\""

/-- A value to be written, with the members of objects in a given order. -/
inductive Doc
  | atom (text : String)
  | array (items : List Doc)
  | object (members : List (String × Doc))
deriving Inhabited

namespace Doc

def string (s : String) : Doc := .atom (quote s)

def nat (n : Nat) : Doc := .atom (toString n)

def bool (b : Bool) : Doc := .atom (if b then "true" else "false")

def null : Doc := .atom "null"

def strings (xs : List String) : Doc := .array (xs.map string)

mutual

def ofValue : Value → Doc
  | .null => null
  | .bool b => bool b
  | .int n => .atom (toString n)
  | .float x => .atom x.render
  | .notFinite _ => null
  | .string s => string s
  | .array items => .array (ofItems items)
  | .object members => .object (ofMembers members)

def ofItems : List Value → List Doc
  | [] => []
  | v :: rest => ofValue v :: ofItems rest

def ofMembers : List (String × Value) → List (String × Doc)
  | [] => []
  | (k, v) :: rest => (k, ofValue v) :: ofMembers rest

end

mutual

/-- Written without any space. -/
def compact : Doc → String
  | .atom s => s
  | .array items => "[" ++ ",".intercalate (compactItems items) ++ "]"
  | .object members => "\x7b" ++ ",".intercalate (compactMembers members) ++ "\x7d"

def compactItems : List Doc → List String
  | [] => []
  | d :: rest => compact d :: compactItems rest

def compactMembers : List (String × Doc) → List String
  | [] => []
  | (k, d) :: rest => (quote k ++ ":" ++ compact d) :: compactMembers rest

end

def indent (n : Nat) : String := String.ofList (List.replicate (2 * n) ' ')

/-- Puts each line one level deeper between brackets; nothing between them stays on one line. -/
def block (opening closing : String) (level : Nat) (lines : List String) : String :=
  match lines with
  | [] => opening ++ closing
  | lines =>
    opening ++ "\n" ++ ",\n".intercalate (lines.map (indent (level + 1) ++ ·)) ++ "\n" ++
      indent level ++ closing

mutual

/-- Written with one item or member on a line. -/
def pretty (level : Nat) : Doc → String
  | .atom s => s
  | .array items => block "[" "]" level (prettyItems (level + 1) items)
  | .object members => block "\x7b" "\x7d" level (prettyMembers (level + 1) members)

def prettyItems (level : Nat) : List Doc → List String
  | [] => []
  | d :: rest => pretty level d :: prettyItems level rest

def prettyMembers (level : Nat) : List (String × Doc) → List String
  | [] => []
  | (k, d) :: rest => (quote k ++ ": " ++ pretty level d) :: prettyMembers level rest

end

end Doc
end TreeLint.Json
