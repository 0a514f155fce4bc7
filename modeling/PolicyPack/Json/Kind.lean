import PolicyPack.Json.Value
import PolicyPack.Shape

/-!
# Values of an expected kind

Conversions of data values to values of a known kind. A value of another kind, or out of range, is a
fault of shape.
-/

namespace PolicyPack.Json

/-- What a value is called where something else is expected. -/
def Value.found : Value → Found
  | .null => .nothing "null"
  | .bool b => .bool b
  | .number (.int n) => .integer n
  | .number (.float x) => .float (floatLayout.renderBinary64 x)
  | .string s => .string s
  | .array _ => .sequence
  | .object _ => .map

/-- A conversion to values of some kind. -/
abbrev Conversion (α : Type) := Value → Except ShapeFault α

/-- Any value. -/
def asValue : Conversion Value := .ok

/-- A truth value. -/
def asBool : Conversion Bool
  | .bool b => .ok b
  | v => .error (.kind v.found "a boolean")

/-- A whole number in a range, which has a name. -/
def asWhole (least greatest : Int) (name : String) : Conversion Int
  | .number (.int n) =>
    if least ≤ n ∧ n ≤ greatest then .ok n else .error (.value (.integer n) name)
  | v => .error (.kind v.found name)

/-- A whole number of 8 bits without sign. -/
def asWord8 : Conversion Int := asWhole 0 255 "u8"

/-- A whole number of 64 bits with sign. -/
def asInt64 : Conversion Int := asWhole (-0x8000000000000000) 0x7fffffffffffffff "i64"

/-- A text. -/
def asText : Conversion String
  | .string s => .ok s
  | v => .error (.kind v.found "a string")

/-- A sequence of values of one kind. -/
def asList {α : Type} (item : Conversion α) : Conversion (List α)
  | .array items => items.mapM item
  | v => .error (.kind v.found "a sequence")

/-- A value that may be null. -/
def asOptional {α : Type} (some? : Conversion α) : Conversion (Option α)
  | .null => .ok none
  | v => do return some (← some? v)

end PolicyPack.Json
