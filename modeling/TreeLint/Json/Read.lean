import TreeLint.Json.Text

/-!
What a JSON text means. Numbers without fraction and exponent stay whole where a 64-bit word holds
them; others become doubles. Only as much of a text is read as its reader asks for.
-/
namespace TreeLint.Json

/-- Appends digits to a number while it stays below `2 ^ 64`; the digits left over come back. -/
def takeDigits (n : Nat) : List Nat → Nat × List Nat
  | [] => (n, [])
  | d :: rest => if 10 * n + d < Nat.pow 2 64 then takeDigits (10 * n + d) rest else (n, d :: rest)

/-- Divides by `10 ^ 308` until the exponent is in reach of one more division, at most `n` times. -/
def scaleDown (x : Binary64) : Nat → Int → Option Binary64
  | 0, _ => some x
  | n + 1, e => do
    if x.isZero then return x
    else if -308 ≤ e then x.div? (← Binary64.ofDecimal? false 1 (-e))
    else scaleDown (← x.div? (← Binary64.ofDecimal? false 1 308)) n (e + 308)

/-- The double `± digits · 10 ^ e`, reached by one product or by quotients of doubles. No number
below `2 ^ 64` survives three quotients. -/
def roundedDouble? (negative : Bool) (digits : Nat) (e : Int) : Option Binary64 := do
  let x ← Binary64.ofRatio? negative digits 1
  if 0 ≤ e then
    if x.isZero then return x
    else if e ≤ 308 then x.mul? (← Binary64.ofDecimal? false 1 e)
    else none
  else scaleDown x 4 e

/-- The value of an exponent, or nothing when it does not fit a signed 32-bit word. -/
def exponentValue? (ds : List Nat) : Option Nat :=
  let n := ds.foldl (fun n d => 10 * n + d) 0
  if n < Nat.pow 2 31 then some n else none

/-- The double of a number text. Digits that no 64-bit word has room for count by their place only. -/
def NumberText.double? (t : NumberText) : Option Binary64 :=
  let (n, left) := takeDigits 0 t.whole
  let fraction := t.fraction.getD []
  let (n, unread) := takeDigits n fraction
  let e : Int := left.length - (fraction.length - unread.length : Nat)
  match t.exponent with
  | none => roundedDouble? t.negative n e
  | some (positive, ds) =>
    match exponentValue? ds with
    | some k => roundedDouble? t.negative n (e + if positive then (k : Int) else -(k : Int))
    | none => if positive ∧ n ≠ 0 then none else Binary64.ofRatio? t.negative 0 1

/-- Zero with a minus sign is a double. -/
def NumberText.value? (t : NumberText) : Option Value :=
  let n : Nat := t.whole.foldl (fun n d => 10 * n + d) 0
  let isWhole := t.fraction.isNone && t.exponent.isNone
  if isWhole && !t.negative && n < Nat.pow 2 64 then some (.int n)
  else if isWhole && t.negative && n ≠ 0 && n ≤ Nat.pow 2 63 then some (.int (-n))
  else t.double?.map .float

/-- What a reader asks of a text: everything, the same of each item, or certain members. A record
that is not open passes over all other members, whatever they hold. -/
inductive Shape
  | all
  | list (item : Shape)
  | record (fields : List (String × Shape)) (isOpen : Bool)

namespace Shape

def lookup (key : String) : List (String × Shape) → Option Shape
  | [] => none
  | (k, s) :: rest => if k = key then some s else lookup key rest

/-- What is asked of the item at a position. A list may stand for a record. -/
def item (i : Nat) : Shape → Shape
  | .list s => s
  | .record fields _ => ((fields[i]?).map (·.2)).getD .all
  | .all => .all

/-- What is asked of a member; nothing means that it is passed over. -/
def member? (key : String) : Shape → Option Shape
  | .record fields isOpen =>
    match lookup key fields with
    | some s => some s
    | none => if isOpen then some .all else none
  | _ => some .all

/-- A record holds each of its own members at most once. -/
def isRepeated (key : String) (seen : List String) : Shape → Bool
  | .record fields _ => (lookup key fields).isSome && seen.contains key
  | _ => false

end Shape

mutual

/-- The part of a node that `shape` asks for. Containers nest fewer than `depth` deep. -/
def Node.read? (depth : Nat) (shape : Shape) : Node → Option Value
  | .null => some .null
  | .bool b => some (.bool b)
  | .number t => t.value?
  | .string s => s.map .string
  | .array items => if depth ≤ 1 then none else .array <$> readItems? (depth - 1) shape 0 items
  | .object members =>
    if depth ≤ 1 then none else Value.ofMembers <$> readMembers? (depth - 1) shape [] members

def readItems? (depth : Nat) (shape : Shape) (i : Nat) : List Node → Option (List Value)
  | [] => some []
  | x :: rest => do
    let v ← x.read? depth (shape.item i)
    return v :: (← readItems? depth shape (i + 1) rest)

def readMembers? (depth : Nat) (shape : Shape) (seen : List String) :
    List (Option String × Node) → Option (List (String × Value))
  | [] => some []
  | (none, _) :: _ => none
  | (some key, x) :: rest =>
    match shape.member? key with
    | none => readMembers? depth shape seen rest
    | some asked =>
      if shape.isRepeated key seen then none
      else do
        let v ← x.read? depth asked
        return (key, v) :: (← readMembers? depth shape (key :: seen) rest)

end

/-- Containers in a text nest at most 127 deep. -/
def maxDepth : Nat := 128

def read? (shape : Shape) (text : String) : Option Value := do
  (← parse? text).read? maxDepth shape

end TreeLint.Json
