import PolicyPack.Number.Layout
import PolicyPack.Policy.Token
import PolicyPack.Text.Numeric

/-!
# Formats

A format is a text with directives, a percent sign and a verb, each of which shows one argument: `v`
and `s` any value, `d` a whole number. A plus sign or a space right after a verb is a flag: it is
shown before a number that is not negative, and otherwise dropped. Numbers are shown by all of their
digits, with an exponent only where neither an integer of 64 bits nor the shortest text of a
floating-point number is the same number.
-/

namespace PolicyPack.Policy.Format

/-- The layout of a number that is written with an exponent. -/
def exponentLayout : DecimalLayout where
  leastPositional := 0
  endPositional := 0
  wholeEnding := ""
  exponentSign := ""

/-- Whether a number is an integer of 64 bits, with or without a sign. -/
def isWordSized (d : Decimal) : Bool :=
  d.toInt?.any fun n => -0x8000000000000000 ≤ n && n < 0x10000000000000000

/-- Whether the shortest decimal of the nearest floating-point number is the number itself. -/
def isShortest (d : Decimal) : Bool :=
  let digits := d.coefficient.natAbs
  (Binary64.ofScaled? (d.coefficient < 0) digits d.exponent).any fun x =>
    !x.isZero && x.shortestBy .upward == ⟨digits, d.exponent⟩

/-- A number. -/
def showNumber (d : Decimal) : String :=
  if isWordSized d || isShortest d then d.render
  else
    (if d.coefficient < 0 then "-" else "") ++
      exponentLayout.render ⟨d.coefficient.natAbs, d.exponent⟩

mutual

/-- A value inside a formatted collection, where texts are quoted. -/
def showPart : Value → String
  | .null => "null"
  | .bool true => "true"
  | .bool false => "false"
  | .number d => showNumber d
  | .string s => Json.quote s
  | .array items => "[" ++ ", ".intercalate (showParts items) ++ "]"
  | .set items => "\x7b" ++ ", ".intercalate (showParts items) ++ "\x7d"
  | .object entries => "\x7b" ++ ", ".intercalate (showEntries entries) ++ "\x7d"

/-- The values of a formatted collection. -/
def showParts : List Value → List String
  | [] => []
  | v :: r => showPart v :: showParts r

/-- The entries of a formatted object. -/
def showEntries : List (Value × Value) → List String
  | [] => []
  | (k, v) :: r => (showPart k ++ ": " ++ showPart v) :: showEntries r

end

/-- A value as a format shows it: a text as it is. -/
def showValue : Value → String
  | .string s => s
  | v => showPart v

/-- What a verb shows of a value after a flag; `d` shows a minus sign before the whole text of a
negative number, nothing of what is no number, and there is nothing to show for a number that is not
whole. A verb of no meaning shows nothing. -/
def showAs (verb : Char) (sign : String) (v : Value) : Option String :=
  match verb, v with
  | 'v', v | 's', v => some (showValue v)
  | 'd', .number d =>
    if d.isWhole then some ((if d.coefficient < 0 then "-" else sign) ++ showNumber d) else none
  | _, _ => some ""

/-- The flag at the front of a text, if there is one. -/
def flag : List Char → String
  | '+' :: _ => "+"
  | ' ' :: _ => " "
  | _ => ""

/-- Whether a character after a percent sign looks like the first digit of a width without being
one. -/
def isForeignDigit (c : Char) : Bool := Text.numeric.contains c && !c.isDigit

/-- Fills the directives of a format with the arguments, one after the other, as many as there are.
Every directive uses up characters, so the length of the format is enough `fuel`. -/
def fill (source : String) (fuel : Nat) (s : List Char) (arguments : List Value) :
    Except Fault String := do
  match fuel with
  | 0 => throw (.diagnostic source .badFormat)
  | fuel + 1 =>
    match s, arguments with
    | [], [] => return ""
    | [], _ :: _ => throw (.diagnostic source .badFormat)
    | '%' :: '%' :: r, args => return "%" ++ (← fill source fuel r args)
    | '%' :: c :: r, args =>
      if isForeignDigit c then throw .badWidth
      match args with
      | [] => throw (.diagnostic source .badFormat)
      | v :: vs =>
        match showAs c (flag r) v with
        | some shown => return shown ++ (← fill source fuel (r.drop (flag r).length) vs)
        | none => throw (.diagnostic source .operandKind)
    | ['%'], _ => throw (.diagnostic source .badFormat)
    | c :: r, args => return c.toString ++ (← fill source fuel r args)

/-- The text of a format with its arguments. -/
def apply (source format : String) (arguments : List Value) : Except Fault String :=
  fill source (format.length + 1) format.toList arguments

end PolicyPack.Policy.Format
