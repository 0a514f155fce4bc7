import PolicyPack.Text.Quoted

/-!
# Faults of shape

A reader of typed data expects a value of some kind, and a record expects certain fields. These are
the ways in which well-formed data can fail to have the shape that was expected.
-/

namespace PolicyPack

/-- What was found where something else was expected. -/
inductive Found where
  /-- A null value, under the name its format has for it. -/
  | nothing (name : String)
  | bool (b : Bool)
  | integer (n : Int)
  /-- A whole number past 64 bits. -/
  | wideInteger (n : Int)
  /-- A floating-point number, as its format writes it. -/
  | float (text : String)
  | string (s : String)
  | sequence
  | map
  /-- A value marked with a tag of its own. -/
  | tagged
deriving DecidableEq, Repr

/-- The wording for what was found. -/
def Found.describe : Found → String
  | .nothing name => name
  | .bool b => s!"boolean `{b}`"
  | .integer n => s!"integer `{n}`"
  | .wideInteger n => s!"integer `{n}` as " ++ (if n < 0 then "i128" else "u128")
  | .float text => s!"floating point `{text}`"
  | .string s => "string " ++ Text.quoted s
  | .sequence => "sequence"
  | .map => "map"
  | .tagged => "enum"

/-- A way in which data fails to have the expected shape. -/
inductive ShapeFault where
  /-- A value of another kind. -/
  | kind (found : Found) (expected : String)
  /-- A value of the right kind that is not allowed. -/
  | value (found : Found) (expected : String)
  /-- A record without one of its fields. -/
  | missing (field : String)
  /-- A record with a field twice. -/
  | duplicate (field : String)
  /-- A field that the record does not have; its fields are listed. -/
  | unknown (field : String) (fields : List String)
  /-- A record written as a sequence that ends too early. -/
  | length (found : Nat) (expected : String)
deriving DecidableEq, Repr

/-- The names in back quotes, separated by commas. -/
def ShapeFault.nameList (names : List String) : String :=
  ", ".intercalate (names.map fun n => "`" ++ n ++ "`")

/-- The wording of the fault. -/
def ShapeFault.message : ShapeFault → String
  | .kind f e => "invalid type: " ++ f.describe ++ ", expected " ++ e
  | .value f e => "invalid value: " ++ f.describe ++ ", expected " ++ e
  | .missing n => "missing field `" ++ n ++ "`"
  | .duplicate n => "duplicate field `" ++ n ++ "`"
  | .unknown n ns => "unknown field `" ++ n ++ "`, expected one of " ++ nameList ns
  | .length n e => s!"invalid length {n}, expected " ++ e

end PolicyPack
