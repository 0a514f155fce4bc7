import PolicyPack.Number.Shortest

/-!
# Exact decimals

A decimal is `coefficient · 10 ^ exponent`, kept in the one form whose coefficient does not end in a
zero, so that equal numbers are equal values. Sums, differences and products are exact; a quotient
that has no finite form keeps a fixed number of digits.
-/

namespace PolicyPack

/-- The coefficient does not end in a zero, and zero has exponent zero. -/
def Decimal.Normal (coefficient exponent : Int) : Prop :=
  coefficient % 10 ≠ 0 ∨ (coefficient = 0 ∧ exponent = 0)

instance (c e : Int) : Decidable (Decimal.Normal c e) := by
  unfold Decimal.Normal; infer_instance

/-- An exact decimal. -/
structure Decimal where
  /-- The integer factor. -/
  coefficient : Int
  /-- The power of ten. -/
  exponent : Int
  /-- The form is the normal one. -/
  normal : Decimal.Normal coefficient exponent
deriving DecidableEq

namespace Decimal

/-- Zero. -/
def zero : Decimal := ⟨0, 0, by decide⟩

instance : Inhabited Decimal := ⟨zero⟩

/-- The decimal `c · 10 ^ e`. -/
def ofScaled (c e : Int) : Decimal :=
  if h : c = 0 then zero
  else if hc : c % 10 = 0 then ofScaled (c / 10) (e + 1)
  else ⟨c, e, Or.inl hc⟩
termination_by c.natAbs
decreasing_by omega

/-- A whole number as a decimal. -/
def ofInt (n : Int) : Decimal := ofScaled n 0

/-- The exact value of the shortest decimal of a floating-point number. -/
def ofBinary64 (x : Binary64) : Decimal :=
  if x.isZero then zero
  else
    let d := x.shortest
    ofScaled (if x.negative then -(d.digits : Int) else d.digits) d.exponent

/-- The coefficients of two decimals over the smaller of their exponents, and that exponent. -/
def align (a b : Decimal) : Int × Int × Int :=
  let e := min a.exponent b.exponent
  (a.coefficient * Nat.pow 10 (a.exponent - e).toNat,
    b.coefficient * Nat.pow 10 (b.exponent - e).toNat, e)

/-- The sum. -/
def add (a b : Decimal) : Decimal :=
  let (x, y, e) := align a b
  ofScaled (x + y) e

/-- The negation. -/
def neg (a : Decimal) : Decimal := ofScaled (-a.coefficient) a.exponent

/-- The difference. -/
def sub (a b : Decimal) : Decimal := add a b.neg

/-- The product. -/
def mul (a b : Decimal) : Decimal :=
  ofScaled (a.coefficient * b.coefficient) (a.exponent + b.exponent)

/-- Whether the decimal is zero. -/
def isZero (a : Decimal) : Bool := a.coefficient == 0

/-- Whether the decimal is a whole number. -/
def isWhole (a : Decimal) : Bool := 0 ≤ a.exponent

/-- The whole number, if it is one. -/
def toInt? (a : Decimal) : Option Int :=
  if a.isWhole then some (a.coefficient * Nat.pow 10 a.exponent.toNat) else none

/-- How many digits a quotient without a finite form keeps. -/
def quotientDigits : Nat := 100

/-- Divides out the factor `p` of `n`, at most `fuel` times. -/
def removeFactor (fuel p n : Nat) : Nat :=
  match fuel with
  | 0 => n
  | fuel + 1 => if n % p = 0 && n != 0 then removeFactor fuel p (n / p) else n

/-- The quotient by a decimal other than zero: exact where a finite form exists, and otherwise cut
off after `quotientDigits` digits. -/
def div (a b : Decimal) : Decimal :=
  let g := Nat.gcd a.coefficient.natAbs b.coefficient.natAbs
  let n := a.coefficient.natAbs / g
  let d := b.coefficient.natAbs / g
  let finite := removeFactor d.log2.succ 5 (removeFactor d.log2.succ 2 d) = 1
  -- a denominator of `k` bits divides `10 ^ k` when it has no factors but two and five
  let shift := if finite then d.log2.succ
    else quotientDigits + (Nat.toDigits 10 d).length - (Nat.toDigits 10 n).length
  let q := n * Nat.pow 10 shift / d
  let cut := if finite then 0 else (Nat.toDigits 10 q).length - quotientDigits
  let magnitude : Int := ((q / Nat.pow 10 cut : Nat) : Int)
  let negative := (a.coefficient < 0) != (b.coefficient < 0)
  ofScaled (if negative then -magnitude else magnitude)
    (a.exponent - b.exponent - (shift : Int) + (cut : Int))

/-- The remainder of whole numbers, with the sign of the dividend. -/
def rem? (a b : Decimal) : Option Decimal := do
  let x ← a.toInt?
  let y ← b.toInt?
  return ofInt (x.tmod y)

/-- The order of the values. -/
def compare (a b : Decimal) : Ordering :=
  let (x, y, _) := align a b
  Ord.compare x y

/-- The digits without exponent, with a point where there is a fraction. -/
def render (a : Decimal) : String :=
  let sign := if a.coefficient < 0 then "-" else ""
  let ds := Nat.toDigits 10 a.coefficient.natAbs
  if 0 ≤ a.exponent then
    sign ++ String.ofList (ds ++ (if a.isZero then [] else List.replicate a.exponent.toNat '0'))
  else
    let places := a.exponent.natAbs
    let padded := List.replicate (places + 1 - ds.length) '0' ++ ds
    let whole := padded.length - places
    sign ++ String.ofList (padded.take whole) ++ "." ++ String.ofList (padded.drop whole)

end Decimal

end PolicyPack
