import PolicyPack.Json.Value

/-!
# Writing data values

Values are written without blank space. A text escapes the quote, the backslash and the control
characters below the space, those with a name by one letter and the others by four digits.
-/

namespace PolicyPack.Json

/-- One hexadecimal digit in lower case. -/
def hexDigit (n : Nat) : Char := Nat.digitChar (n % 16)

/-- How one character is written inside a text. -/
def escapeChar (c : Char) : List Char :=
  if c = '"' then ['\\', '"']
  else if c = '\\' then ['\\', '\\']
  else if c = '\x08' then ['\\', 'b']
  else if c = '\t' then ['\\', 't']
  else if c = '\n' then ['\\', 'n']
  else if c = '\x0c' then ['\\', 'f']
  else if c = '\r' then ['\\', 'r']
  else if c.toNat < 0x20 then ['\\', 'u', '0', '0', hexDigit (c.toNat / 16), hexDigit c.toNat]
  else [c]

/-- The characters of a text in quotes. -/
def quoteChars (s : String) : List Char :=
  '"' :: s.toList.flatMap escapeChar ++ ['"']

/-- A text in quotes. -/
def quote (s : String) : String := String.ofList (quoteChars s)

/-- The texts joined by commas. -/
def commas (l : List String) : String := ",".intercalate l

/-- A sequence of written values. -/
def arrayOf (items : List String) : String := "[" ++ commas items ++ "]"

/-- A map with written values under its keys. -/
def objectOf (entries : List (String × String)) : String :=
  "\x7b" ++ commas (entries.map fun e => quote e.1 ++ ":" ++ e.2) ++ "\x7d"

mutual

/-- The text of a value. -/
def Value.render : Value → String
  | .null => "null"
  | .bool true => "true"
  | .bool false => "false"
  | .number n => n.render
  | .string s => quote s
  | .array items => arrayOf (Value.renderItems items)
  | .object entries => objectOf (Value.renderEntries entries)

/-- The texts of the values. -/
def Value.renderItems : List Value → List String
  | [] => []
  | v :: r => v.render :: Value.renderItems r

/-- The texts of the values under their keys. -/
def Value.renderEntries : List (String × Value) → List (String × String)
  | [] => []
  | (k, v) :: r => (k, v.render) :: Value.renderEntries r

end

end PolicyPack.Json
