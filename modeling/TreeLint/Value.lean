import TreeLint.Ascending
import TreeLint.Binary64

/-!
Untyped configuration values. The members of an object stand in ascending order of their keys. A
number that is not finite can be written in some documents; where a value is kept as it is, null
stands in its place.
-/
namespace TreeLint

inductive Value
  | null
  | bool (b : Bool)
  | int (n : Int)
  | float (x : Binary64)
  | notFinite (name : String)
  | string (s : String)
  | array (items : List Value)
  | object (members : List (String × Value))
deriving Repr, Inhabited

namespace Value

/-- An object from its members in the order of writing; of a key written twice the last one stands. -/
def ofMembers (members : List (String × Value)) : Value := .object (Ascending.ofEntries members)

def strings (xs : List String) : Value := .array (xs.map .string)

mutual

/-- A value with null in place of each number that is not finite. -/
def plain : Value → Value
  | .notFinite _ => .null
  | .array items => .array (plainItems items)
  | .object members => .object (plainMembers members)
  | v => v

def plainItems : List Value → List Value
  | [] => []
  | v :: rest => v.plain :: plainItems rest

def plainMembers : List (String × Value) → List (String × Value)
  | [] => []
  | (k, v) :: rest => (k, v.plain) :: plainMembers rest

end

end Value
end TreeLint
