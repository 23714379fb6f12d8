/-!
Finite double-precision numbers as exact integers: rounding of quotients, and the shortest decimal
that reads back.
-/
namespace TreeLint

/-- The number `± significand · 2 ^ exponent`. The significand has 53 binary digits unless the
exponent is the least one. -/
structure Binary64 where
  negative : Bool
  significand : Nat
  exponent : Int
deriving DecidableEq, Repr, Inhabited

namespace Binary64

def minExponent : Int := -1074

def maxExponent : Int := 971

/-- The whole number nearest to `num / den`; a half goes to the even neighbour. -/
def roundEven (num den : Nat) : Nat :=
  let q := num / den
  let r := num % den
  if 2 * r < den ∨ (2 * r = den ∧ q % 2 = 0) then q else q + 1

/-- Numerator and denominator of `num / den / 2 ^ e`. -/
def scaled (num den : Nat) (e : Int) : Nat × Nat :=
  (num * Nat.pow 2 (-e).toNat, den * Nat.pow 2 e.toNat)

/-- The double nearest to `± num / den`, unless it is too large for one. -/
def ofRatio? (negative : Bool) (num den : Nat) : Option Binary64 :=
  if num = 0 then some ⟨negative, 0, minExponent⟩
  else
    let guess : Int := (num.log2 : Int) - den.log2 - 52
    let (n, d) := scaled num den guess
    let e := max (if n / d < Nat.pow 2 52 then guess - 1 else guess) minExponent
    let (n, d) := scaled num den e
    let m := roundEven n d
    let (m, e) := if m = Nat.pow 2 53 then (Nat.pow 2 52, e + 1) else (m, e)
    if e > maxExponent then none else some ⟨negative, m, e⟩

def isZero (x : Binary64) : Bool := x.significand = 0

/-- Numerator and denominator of the magnitude. -/
def ratio (x : Binary64) : Nat × Nat :=
  (x.significand * Nat.pow 2 x.exponent.toNat, Nat.pow 2 (-x.exponent).toNat)

/-- The product of two magnitudes with the sign of `x`. -/
def mul? (x y : Binary64) : Option Binary64 :=
  ofRatio? x.negative (x.ratio.1 * y.ratio.1) (x.ratio.2 * y.ratio.2)

/-- The quotient of two magnitudes with the sign of `x`, for a divisor that is not zero. -/
def div? (x y : Binary64) : Option Binary64 :=
  ofRatio? x.negative (x.ratio.1 * y.ratio.2) (x.ratio.2 * y.ratio.1)

/-- The double nearest to `± digits · 10 ^ e`. -/
def ofDecimal? (negative : Bool) (digits : Nat) (e : Int) : Option Binary64 :=
  ofRatio? negative (digits * Nat.pow 10 e.toNat) (Nat.pow 10 (-e).toNat)

def digitCount (n : Nat) : Nat := (Nat.toDigits 10 n).length

/-- The exponent of the leading decimal digit of `num / den`. -/
def leadingExponent (num den : Nat) : Int :=
  let e : Int := (digitCount num : Int) - digitCount den
  if den * Nat.pow 10 e.toNat ≤ num * Nat.pow 10 (-e).toNat then e else e - 1

/-- A decimal `digits · 10 ^ exponent`. -/
structure Decimal where
  digits : Nat
  exponent : Int

/-- The point of the grid `10 ^ k` that is nearest to `x`, if it lies among the reals that round
to `x`. Of two points at the same distance the even one is taken. -/
def gridPoint? (x : Binary64) (k : Int) : Option Decimal :=
  let q := x.exponent - 2
  let unit := Nat.pow 2 q.toNat * Nat.pow 10 (-k).toNat
  let den := Nat.pow 2 (-q).toNat * Nat.pow 10 k.toNat
  let value := 4 * x.significand * unit
  let below := if x.significand = Nat.pow 2 52 ∧ x.exponent ≠ minExponent then 1 else 2
  let low := (4 * x.significand - below) * unit
  let high := (4 * x.significand + 2) * unit
  let inside (d : Nat) : Bool :=
    if x.significand % 2 = 0 then low ≤ d * den && d * den ≤ high
    else low < d * den && d * den < high
  let d := value / den
  let near := roundEven value den
  let far := if near = d then d + 1 else d
  if inside near then some ⟨near, k⟩ else if inside far then some ⟨far, k⟩ else none

/-- The coarsest grid, of those with `n` down to one digits to spare, that holds a decimal of `x`. -/
def search (x : Binary64) (leading : Int) : Nat → Decimal
  | 0 => (x.gridPoint? (leading - 16)).getD ⟨0, 0⟩
  | n + 1 => (x.gridPoint? (leading - 16 + (n + 1 : Nat))).getD (search x leading n)

/-- Takes zeros off the end of a decimal with at most `n` of them. -/
def trim : Nat → Decimal → Decimal
  | 0, d => d
  | n + 1, d => if d.digits ≠ 0 ∧ d.digits % 10 = 0 then trim n ⟨d.digits / 10, d.exponent + 1⟩ else d

/-- The decimal with the fewest digits that rounds to `x`, and of those the nearest one. -/
def shortest (x : Binary64) : Decimal :=
  trim 20 (search x (leadingExponent x.ratio.1 x.ratio.2) 16)

def zeros (n : Int) : String := String.ofList (List.replicate n.toNat '0')

/-- Writes a decimal with a point and no exponent, and with at least one place. -/
def positional (digits : String) (exponent : Int) : String :=
  let point := digits.length + exponent
  if 0 ≤ exponent then digits ++ zeros exponent ++ ".0"
  else if 0 < point then
    String.ofList (digits.toList.take point.toNat) ++ "." ++
      String.ofList (digits.toList.drop point.toNat)
  else "0." ++ zeros (-point) ++ digits

/-- Writes a decimal with one digit before the point and an exponent. -/
def scientific (digits : String) (exponent : Int) : String :=
  let power := toString (digits.length + exponent - 1)
  match digits.toList with
  | [] => "0.0"
  | [c] => c.toString ++ "e" ++ power
  | c :: rest => c.toString ++ "." ++ String.ofList rest ++ "e" ++ power

def sign (x : Binary64) : String := if x.negative then "-" else ""

/-- All digits written out, whatever the size. -/
def plain (x : Binary64) : String :=
  if x.isZero then x.sign ++ "0.0"
  else x.sign ++ positional (toString x.shortest.digits) x.shortest.exponent

/-- Written out from `10 ^ -5` up to below `10 ^ 16`, with an exponent outside that range. -/
def render (x : Binary64) : String :=
  if x.isZero then x.sign ++ "0.0"
  else
    let digits := toString x.shortest.digits
    let exponent := x.shortest.exponent
    let point := digits.length + exponent
    if -5 < point ∧ point ≤ 16 then x.sign ++ positional digits exponent
    else x.sign ++ scientific digits exponent

end Binary64
end TreeLint
