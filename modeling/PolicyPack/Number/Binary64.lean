/-!
# Finite 64-bit binary floating-point numbers

A finite number is a sign and a magnitude `mantissa · 2 ^ exponent`, in the one form that keeps the
mantissa below `2 ^ 53` and normal wherever the exponent allows it. Arithmetic rounds an exact
fraction to the nearest number, ties to the even mantissa; a result beyond the greatest finite
number is `none`.
-/

namespace PolicyPack

/-- The parts of a magnitude are in normal form: the mantissa has 53 bits, fewer only at the least
exponent, and the exponent is in range. The bounds of the mantissa are `2 ^ 53` and `2 ^ 52`. -/
def Binary64.Normal (mantissa : Nat) (exponent : Int) : Prop :=
  mantissa < 0x20000000000000 ∧ -1074 ≤ exponent ∧ exponent ≤ 971 ∧
    (0x10000000000000 ≤ mantissa ∨ exponent = -1074)

instance (m : Nat) (q : Int) : Decidable (Binary64.Normal m q) := by
  unfold Binary64.Normal; infer_instance

/-- A finite 64-bit binary floating-point number. -/
structure Binary64 where
  /-- Whether the sign is minus; zero has both signs. -/
  negative : Bool
  /-- The integer factor of the magnitude. -/
  mantissa : Nat
  /-- The power of two in the magnitude. -/
  exponent : Int
  /-- The magnitude is in normal form. -/
  normal : Binary64.Normal mantissa exponent
deriving DecidableEq

namespace Binary64

/-- Zero with the given sign. -/
def zero (negative : Bool) : Binary64 where
  negative := negative
  mantissa := 0
  exponent := -1074
  normal := by decide

instance : Inhabited Binary64 := ⟨zero false⟩

/-- Whether the magnitude is zero. -/
def isZero (x : Binary64) : Bool := x.mantissa == 0

/-- The number with the opposite sign. -/
def neg (x : Binary64) : Binary64 := { x with negative := !x.negative }

/-- The number with these parts, or `none` if they are not in normal form. -/
def ofParts? (negative : Bool) (mantissa : Nat) (exponent : Int) : Option Binary64 :=
  if h : Normal mantissa exponent then some ⟨negative, mantissa, exponent, h⟩ else none

/-- The numerator of the magnitude. -/
def numerator (x : Binary64) : Nat := x.mantissa * Nat.pow 2 x.exponent.toNat

/-- The denominator of the magnitude. -/
def denominator (x : Binary64) : Nat := Nat.pow 2 (-x.exponent).toNat

/-- The whole number nearest to `n / d`, a tie to the even one. -/
def roundTiesEven (n d : Nat) : Nat :=
  let k := n / d
  let r := 2 * (n % d)
  if r < d then k else if d < r then k + 1 else if k % 2 = 0 then k else k + 1

/-- The greatest `e` with `2 ^ e ≤ n / d`, for positive `n` and `d`. -/
def log2Fraction (n d : Nat) : Int :=
  let k : Int := (n.log2 : Int) - d.log2
  if d * Nat.pow 2 k.toNat ≤ n * Nat.pow 2 (-k).toNat then k else k - 1

/-- The number nearest to `n / d` with the given sign, or `none` beyond the greatest one. -/
def ofFraction? (negative : Bool) (n d : Nat) : Option Binary64 :=
  if n = 0 then some (zero negative)
  else
    let q := max (log2Fraction n d - 52) (-1074)
    let m := roundTiesEven (n * Nat.pow 2 (-q).toNat) (d * Nat.pow 2 q.toNat)
    if m = 0x20000000000000 then ofParts? negative 0x10000000000000 (q + 1)
    else ofParts? negative m q

/-- The number nearest to `n · 10 ^ e` with the given sign, or `none` beyond the greatest one.
Powers of ten far out of range are decided by the number of digits alone. -/
def ofScaled? (negative : Bool) (n : Nat) (e : Int) : Option Binary64 :=
  let digits : Int := (Nat.toDigits 10 n).length
  if n = 0 || digits + e < -330 then some (zero negative)
  else if 310 < digits + e then none
  else ofFraction? negative (n * Nat.pow 10 e.toNat) (Nat.pow 10 (-e).toNat)

/-- The number nearest to a natural number. -/
def ofNat? (n : Nat) : Option Binary64 := ofFraction? false n 1

/-- The rounded product. -/
def mul? (x y : Binary64) : Option Binary64 :=
  ofFraction? (x.negative != y.negative) (x.numerator * y.numerator)
    (x.denominator * y.denominator)

/-- The rounded quotient by a number other than zero. -/
def div? (x y : Binary64) : Option Binary64 :=
  ofFraction? (x.negative != y.negative) (x.numerator * y.denominator)
    (x.denominator * y.numerator)

end Binary64

end PolicyPack
