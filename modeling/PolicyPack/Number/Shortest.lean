import PolicyPack.Number.Binary64

/-!
# Shortest decimal digits

Of the decimals that round to a given floating-point number, the one with the fewest digits, of
those the nearest, and of two equally near the one whose last digit is even or the greater one.
-/

namespace PolicyPack

/-- A positive decimal `digits · 10 ^ exponent`. -/
structure Digits where
  /-- The digits, read as a whole number. -/
  digits : Nat
  /-- The power of ten. -/
  exponent : Int
deriving DecidableEq, Repr

namespace Digits

/-- Drops zeros from the end of the digits, at most `fuel` of them. -/
def trim (fuel : Nat) (d : Digits) : Digits :=
  match fuel with
  | 0 => d
  | fuel + 1 =>
    if d.digits % 10 = 0 && d.digits != 0 then trim fuel ⟨d.digits / 10, d.exponent + 1⟩ else d

/-- The number of digits. -/
def length (d : Digits) : Nat := (Nat.toDigits 10 d.digits).length

end Digits

namespace Binary64

/-- The numbers that round to a magnitude, as multiples of a quarter of its last place: from `low`
to `high`, the ends included when `closed`. -/
structure Interval where
  /-- The lower end. -/
  low : Nat
  /-- The upper end. -/
  high : Nat
  /-- Whether the ends round to the magnitude too. -/
  closed : Bool

/-- The interval that rounds to `x`. Below a power of two the numbers lie twice as dense, so the
lower end is nearer there. -/
def interval (x : Binary64) : Interval where
  low :=
    if x.mantissa = 0x10000000000000 ∧ x.exponent ≠ -1074 then 4 * x.mantissa - 1
    else 4 * x.mantissa - 2
  high := 4 * x.mantissa + 2
  closed := x.mantissa % 2 = 0

/-- The decimal exponent of the leading digit of a magnitude other than zero. -/
def leadingExponent (x : Binary64) : Int :=
  ((Nat.toDigits 10 (x.numerator * Nat.pow 10 340 / x.denominator)).length : Int) - 341

/-- Which of two equally near decimals is taken. -/
inductive Tie where
  /-- The one whose last digit is even. -/
  | toEven
  /-- The greater one. -/
  | upward
deriving DecidableEq, Repr

/-- Whether a tie between `k` and the number after it goes to `k`. -/
def Tie.keeps (t : Tie) (k : Nat) : Bool := t == .toEven && k % 2 == 0

/-- The decimal on the grid of multiples of `10 ^ s` that rounds to `x` and is nearest to it. -/
def onGrid? (tie : Tie) (x : Binary64) (s : Int) : Option Digits :=
  -- both sides of every comparison are cleared of denominators: a quarter of the last place weighs
  -- `quarter` and a step of the grid weighs `step`
  let step := Nat.pow 10 s.toNat * Nat.pow 2 (2 - x.exponent).toNat
  let quarter := Nat.pow 2 (x.exponent - 2).toNat * Nat.pow 10 (-s).toNat
  let value := 4 * x.mantissa * quarter
  let i := x.interval
  let inside (k : Nat) : Bool :=
    if i.closed then i.low * quarter ≤ k * step && k * step ≤ i.high * quarter
    else i.low * quarter < k * step && k * step < i.high * quarter
  let k := value / step
  let below := value - k * step
  let above := (k + 1) * step - value
  let nearestIsBelow := below < above || (below == above && tie.keeps k)
  match inside k && k != 0, inside (k + 1) with
  | true, true => some ⟨if nearestIsBelow then k else k + 1, s⟩
  | true, false => some ⟨k, s⟩
  | false, true => some ⟨k + 1, s⟩
  | false, false => none

/-- The shortest decimal that rounds to a magnitude other than zero. -/
def shortestBy (tie : Tie) (x : Binary64) : Digits :=
  let e := x.leadingExponent
  let found := (List.range 17).findSome? fun (n : Nat) => x.onGrid? tie (e - n)
  (found.getD ⟨x.mantissa, 0⟩).trim 17

/-- The shortest decimal that rounds to a magnitude other than zero, ties to the even digit. -/
def shortest (x : Binary64) : Digits := x.shortestBy .toEven

end Binary64

end PolicyPack
