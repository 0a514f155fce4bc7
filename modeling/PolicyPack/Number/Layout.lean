import PolicyPack.Number.Shortest

/-!
# Text of a decimal

A layout says which decimals are written positionally and how an exponent is written.
-/

namespace PolicyPack

/-- How decimals are laid out as text. -/
structure DecimalLayout where
  /-- The least exponent of the leading digit that is written positionally. -/
  leastPositional : Int
  /-- The first exponent of the leading digit that is no longer written positionally. -/
  endPositional : Int
  /-- What follows the digits of a whole number that is written positionally. -/
  wholeEnding : String
  /-- The sign written before an exponent that is not negative. -/
  exponentSign : String

namespace DecimalLayout

/-- The digits with a point after the first of them, if there are more. -/
def scientific (l : DecimalLayout) (ds : List Char) (leading : Int) : String :=
  let head := String.ofList (ds.take 1)
  let tail := if ds.length ≤ 1 then "" else "." ++ String.ofList (ds.drop 1)
  let sign := if leading < 0 then "-" else l.exponentSign
  head ++ tail ++ "e" ++ sign ++ toString leading.natAbs

/-- The digits with zeros and a point where the exponent puts them. -/
def positional (l : DecimalLayout) (ds : List Char) (leading : Int) : String :=
  if leading < 0 then
    "0." ++ String.ofList (List.replicate (leading.natAbs - 1) '0' ++ ds)
  else
    let whole := leading.toNat + 1
    if ds.length ≤ whole then
      String.ofList (ds ++ List.replicate (whole - ds.length) '0') ++ l.wholeEnding
    else String.ofList (ds.take whole) ++ "." ++ String.ofList (ds.drop whole)

/-- The text of a positive decimal. -/
def render (l : DecimalLayout) (d : Digits) : String :=
  let ds := Nat.toDigits 10 d.digits
  let leading := d.exponent + (ds.length : Int) - 1
  if l.leastPositional ≤ leading && leading < l.endPositional then l.positional ds leading
  else l.scientific ds leading

/-- The text of a floating-point number; zero is laid out as the digit zero. -/
def renderBinary64 (l : DecimalLayout) (x : Binary64) : String :=
  (if x.negative then "-" else "") ++ l.render (if x.isZero then ⟨0, 0⟩ else x.shortest)

end DecimalLayout

end PolicyPack
