import PolicyPack.Json.Value
import PolicyPack.Yaml.Fault
import PolicyPack.Yaml.Token

/-!
# The values of scalars

A plain scalar without a tag stands for a null value, a truth value or a number when it has the form
of one, and for its text otherwise. A tag can ask for one of these kinds.
-/

namespace PolicyPack.Yaml

/-- The value of a scalar. -/
inductive Scalar where
  | null
  | bool (b : Bool)
  /-- A whole number of 64 bits. -/
  | integer (n : Int)
  /-- A whole number of more than 64 and at most 128 bits. -/
  | wideInteger (n : Int)
  | float (x : Binary64)
  /-- An infinity or no number, with its name in messages. -/
  | nonFinite (name : String)
  | string (s : String)

namespace Scalar

/-- How a floating-point number is written in messages: always positionally. -/
def messageLayout : DecimalLayout where
  leastPositional := -400
  endPositional := 400
  wholeEnding := ".0"
  exponentSign := "+"

/-- What a scalar is called where something else is expected. -/
def found : Scalar → Found
  | .null => .nothing "unit value"
  | .bool b => .bool b
  | .integer n => .integer n
  | .wideInteger n => .wideInteger n
  | .float x => .float (messageLayout.renderBinary64 x)
  | .nonFinite name => .float name
  | .string s => .string s

/-! ### Forms -/

/-- Whether a text is a spelling of the null value. -/
def isNull (s : String) : Bool := s ∈ ["null", "Null", "NULL", "~"]

/-- The truth value that a text spells. -/
def bool? (s : String) : Option Bool :=
  if s ∈ ["true", "True", "TRUE"] then some true
  else if s ∈ ["false", "False", "FALSE"] then some false
  else none

/-- The value of a digit of any base up to sixteen. -/
def digitValue (c : Char) : Nat :=
  if c.isDigit then c.toNat - '0'.toNat
  else if 'a' ≤ c ∧ c ≤ 'f' then c.toNat - 'a'.toNat + 10
  else if 'A' ≤ c ∧ c ≤ 'F' then c.toNat - 'A'.toNat + 10
  else 16

/-- The number that digits of a base stand for. -/
def natural? (base : Nat) (cs : List Char) : Option Nat :=
  if cs ≠ [] ∧ cs.all (fun c => digitValue c < base) then
    some (cs.foldl (fun n c => base * n + digitValue c) 0)
  else none

/-- The bases that a number can name after its sign. -/
def namedBases : List (Char × Nat) := [('x', 16), ('o', 8), ('b', 2)]

/-- Drops one sign. -/
def dropSign : List Char → List Char
  | '-' :: r => r
  | '+' :: r => r
  | r => r

/-- Drops one plus sign. -/
def dropPlus : List Char → List Char
  | '+' :: r => r
  | r => r

/-- Whether digits follow a leading zero, which makes a text of what looks like a number. -/
def hasLeadingZero (cs : List Char) : Bool :=
  match dropSign cs with
  | '0' :: c :: r => (c :: r).all Char.isDigit
  | _ => false

/-- The number below a bound that a text without minus sign spells. -/
def unsigned? (bound : Nat) (cs : List Char) : Option Nat :=
  let below (n? : Option Nat) : Option Nat := n?.filter fun n => n < bound
  let u := dropPlus cs
  let plain? := if hasLeadingZero u then none else below (natural? 10 u)
  match u with
  | '0' :: x :: r =>
    match namedBases.lookup x with
    | some base => below (natural? base r)
    | none => plain?
  | _ => plain?

/-- The number not less than the negative of a bound that a text with minus sign spells. -/
def negative? (bound : Nat) (cs : List Char) : Option Int :=
  let within (n? : Option Nat) : Option Int :=
    (n?.filter fun n => n ≤ bound).map fun n => -(n : Int)
  match cs with
  | '-' :: r =>
    let plain? := if hasLeadingZero r then none else within (natural? 10 r)
    match r with
    | '0' :: x :: r =>
      match namedBases.lookup x with
      | some base => within (natural? base r)
      | none => plain?
    | _ => plain?
  | _ => none

/-- The whole number that a text spells. -/
def integer? (cs : List Char) : Option Scalar :=
  ((unsigned? 0x10000000000000000 cs).map fun n => .integer n)
    <|> (negative? 0x8000000000000000 cs).map .integer
    <|> ((unsigned? 0x100000000000000000000000000000000 cs).map fun n => .wideInteger n)
    <|> (negative? 0x80000000000000000000000000000000 cs).map .wideInteger

/-- The digits of a number with at most one point, without the point, and how many follow it. -/
def pointedDigits? (cs : List Char) : Option (Nat × Nat) :=
  let whole := cs.takeWhile (· != '.')
  let fraction := (cs.dropWhile (· != '.')).drop 1
  if (whole ++ fraction).isEmpty || !(whole ++ fraction).all Char.isDigit then none
  else (natural? 10 (whole ++ fraction)).map fun n => (n, fraction.length)

/-- The finite floating-point number nearest to the number that a text spells. -/
def finite? (cs : List Char) : Option Binary64 := do
  let negative := cs.head? = some '-'
  let cs := dropSign cs
  let isExponentLetter (c : Char) : Bool := c == 'e' || c == 'E'
  let (digits, places) ← pointedDigits? (cs.takeWhile fun c => !isExponentLetter c)
  let e : Int ← match cs.dropWhile fun c => !isExponentLetter c with
    | [] => some 0
    | _ :: r =>
      let n? := natural? 10 (dropSign r)
      if r.head? = some '-' then n?.map fun n => -(n : Int) else n?.map Int.ofNat
  Binary64.ofScaled? negative digits (e - (places : Int))

/-- The floating-point number that a text spells. -/
def float? (s : String) : Option Scalar :=
  let u := dropPlus s.toList
  if u.length < s.length ∧ (u.head? = some '+' ∨ u.head? = some '-') then none
  else if String.ofList u ∈ [".inf", ".Inf", ".INF"] then some (.nonFinite "inf")
  else if s ∈ ["-.inf", "-.Inf", "-.INF"] then some (.nonFinite "-inf")
  else if s ∈ [".nan", ".NaN", ".NAN"] then some (.nonFinite "NaN")
  else (finite? u).map .float

/-- The value of a plain scalar without a tag. -/
def ofPlain (s : String) : Scalar :=
  if s.isEmpty || isNull s then .null
  else
    match bool? s with
    | some b => .bool b
    | none =>
      match integer? s.toList with
      | some x => x
      | none => if hasLeadingZero s.toList then .string s else (float? s).getD (.string s)

/-! ### Tags -/

/-- What the tags of the standard kinds begin with. -/
def standardTag (kind : String) : String := "tag:yaml.org,2002:" ++ kind

/-- Whether a tag is one of the document's own. -/
def isOwnTag (tag : String) : Bool := tag.toList.head? = some '!'

/-- The value of a scalar with a tag, written as it is; a text without the form that the tag asks
for is a fault. -/
def ofText (tag : Option String) (s : String) (style : ScalarStyle) : Except ShapeFault Scalar :=
  let demand (x? : Option Scalar) (kind : String) : Except ShapeFault Scalar :=
    match x? with
    | some x => .ok x
    | none => .error (.value (.string s) kind)
  let untagged : Scalar := if style = .plain then ofPlain s else .string s
  match tag with
  | none => .ok untagged
  | some tag =>
    if tag = standardTag "bool" then demand ((bool? s).map .bool) "a boolean"
    else if tag = standardTag "int" then demand (integer? s.toList) "an integer"
    else if tag = standardTag "float" then demand (float? s) "a float"
    else if tag = standardTag "null" then demand (if isNull s then some .null else none) "null"
    else if isOwnTag tag then .ok untagged
    else .ok (.string s)

end Scalar

end PolicyPack.Yaml
