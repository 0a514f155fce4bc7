import PolicyPack.Dictionary
import PolicyPack.Number.Layout

/-!
# Data values

The values of a data document. A number is an integer of 64 bits, signed or not, or a floating-point
number; objects keep their entries sorted by key.
-/

namespace PolicyPack.Json

/-- A number in a data document. -/
inductive Number where
  /-- A whole number between `-2 ^ 63` and `2 ^ 64 - 1`. -/
  | int (n : Int)
  | float (x : Binary64)
deriving DecidableEq, Inhabited

/-- A value of a data document. -/
inductive Value where
  | null
  | bool (b : Bool)
  | number (n : Number)
  | string (s : String)
  | array (items : List Value)
  /-- Values under keys. -/
  | object (entries : List (String × Value))
deriving Inhabited

mutual

/-- Structural equality of values, by recursion on both. -/
def Value.same : Value → Value → Bool
  | .null, .null => true
  | .bool a, .bool b => a == b
  | .number a, .number b => a == b
  | .string a, .string b => a == b
  | .array as, .array bs => Value.sameItems as bs
  | .object as, .object bs => Value.sameEntries as bs
  | _, _ => false

/-- Structural equality of lists of values. -/
def Value.sameItems : List Value → List Value → Bool
  | [], [] => true
  | a :: as, b :: bs => Value.same a b && Value.sameItems as bs
  | _, _ => false

/-- Structural equality of lists of entries. -/
def Value.sameEntries : List (String × Value) → List (String × Value) → Bool
  | [], [] => true
  | (k, a) :: as, (l, b) :: bs => k == l && Value.same a b && Value.sameEntries as bs
  | _, _ => false

end

/-- The entries, if the value is an object. -/
def Value.entries? : Value → Option (List (String × Value))
  | .object es => some es
  | _ => none

/-- How data numbers that are not integers are written: positionally while the leading digit stands
between the fifth place after the point and the sixteenth before it, whole ones with a zero after
the point, and other exponents with their sign. -/
def floatLayout : DecimalLayout where
  leastPositional := -5
  endPositional := 16
  wholeEnding := ".0"
  exponentSign := "+"

/-- The text of a number. -/
def Number.render : Number → String
  | .int n => toString n
  | .float x => floatLayout.renderBinary64 x

end PolicyPack.Json
