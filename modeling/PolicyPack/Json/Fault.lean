import PolicyPack.Shape

/-!
# Faults in data text

What can be wrong with the text of a data value, and the wording of each fault. Text is checked from
left to right, and the first fault is the one reported.
-/

namespace PolicyPack.Json

/-- A fault in the text of a value. -/
inductive Fault where
  /-- The text ends where a value must stand. -/
  | endInValue
  /-- The text ends inside an object. -/
  | endInObject
  /-- The text ends inside a sequence. -/
  | endInArray
  /-- The text ends inside a quoted text. -/
  | endInString
  /-- No value begins with the next character. -/
  | noValue
  /-- A word begins like a literal and goes on otherwise. -/
  | badWord
  /-- A key without a colon. -/
  | noColon
  /-- Something other than a comma or the end follows an entry. -/
  | noObjectEnd
  /-- Something other than a comma or the end follows an item. -/
  | noArrayEnd
  /-- A key that is not a quoted text. -/
  | keyNotString
  /-- A comma before the end of an object or a sequence. -/
  | trailingComma
  /-- Text after the end of the value. -/
  | trailingText
  /-- A malformed number. -/
  | badNumber
  /-- A number beyond the greatest floating-point number. -/
  | hugeNumber
  /-- An escape that does not exist. -/
  | badEscape
  /-- A control character inside a quoted text. -/
  | controlCharacter
  /-- A leading surrogate that no second escape follows. -/
  | unpairedEscape
  /-- A surrogate out of place. -/
  | loneSurrogate
  /-- A quoted text with bytes that are no text. -/
  | notText
  /-- More levels of nesting than are allowed. -/
  | tooDeep
  /-- A wrapped number that does not read as one. -/
  | badWrappedNumber
  /-- A value of the wrong shape. -/
  | shape (fault : ShapeFault)
deriving DecidableEq, Repr

/-- The wording of the fault. -/
def Fault.message : Fault → String
  | .endInValue => "EOF while parsing a value"
  | .endInObject => "EOF while parsing an object"
  | .endInArray => "EOF while parsing a list"
  | .endInString => "EOF while parsing a string"
  | .noValue => "expected value"
  | .badWord => "expected ident"
  | .noColon => "expected `:`"
  | .noObjectEnd => "expected `,` or `\x7d`"
  | .noArrayEnd => "expected `,` or `]`"
  | .keyNotString => "key must be a string"
  | .trailingComma => "trailing comma"
  | .trailingText => "trailing characters"
  | .badNumber => "invalid number"
  | .hugeNumber => "number out of range"
  | .badEscape => "invalid escape"
  | .controlCharacter => "control character (\\u0000-\\u001F) found while parsing a string"
  | .unpairedEscape => "unexpected end of hex escape"
  | .loneSurrogate => "lone leading surrogate in hex escape"
  | .notText => "invalid unicode code point"
  | .tooDeep => "recursion limit exceeded"
  | .badWrappedNumber => "failed to read big number"
  | .shape f => f.message

end PolicyPack.Json
