import PolicyPack.Json.Token

/-!
# Reading data values

A reader of nested values takes the number of levels of nesting that are still allowed, and recurses
on it. What it makes of the parts of a value is up to a record of builders, so one reader serves the
data values of this library and the values of policies.
-/

namespace PolicyPack.Json

/-- How many levels of sequences and objects a text may nest. -/
def nestingLimit : Nat := 127

/-- What to make of the parts of a value. -/
structure Builder (α : Type) where
  null : α
  bool : Bool → α
  number : Number → α
  string : String → α
  array : List α → α
  /-- An object, with its entries in the order of the text. -/
  object : List (String × α) → α
  /-- What the first entry of an object stands for, if an object that begins with it is not one. -/
  wrapped : String → α → Option (Except Fault α)

/-- Reads the items of a sequence; every item takes symbols off the input, so `fuel` items suffice
for an input that is shorter. -/
def items {α : Type} (item : List Symbol → Reading α) (fuel : Nat) (first : Bool)
    (s : List Symbol) : Except Fault (List α × List Symbol) :=
  match fuel with
  | 0 => .error .endInArray
  | fuel + 1 => do
    let (more, s) ← nextItem first s
    if more then
      let (x, s) ← item s
      let (xs, s) ← items item fuel false s
      return (x :: xs, s)
    else return ([], s)

/-- Reads the entries of an object, each value by its key. -/
def entries {α : Type} (item : String → List Symbol → Reading α) (fuel : Nat) (first : Bool)
    (s : List Symbol) : Except Fault (List α × List Symbol) :=
  match fuel with
  | 0 => .error .endInObject
  | fuel + 1 => do
    let (key?, s) ← nextKey first s
    match key? with
    | none => return ([], s)
    | some k =>
      let (x, s) ← item k s
      let (xs, s) ← entries item fuel false s
      return (x :: xs, s)

/-- Reads the value of an entry after its key. -/
def entryValue {α : Type} (item : List Symbol → Reading α) (k : String) (s : List Symbol) :
    Except Fault ((String × α) × List Symbol) := do
  let ((), s) ← colon s
  let (x, s) ← item s
  return ((k, x), s)

/-- Reads an object after its opening brace. -/
def object {α : Type} (b : Builder α) (item : List Symbol → Reading α) (s : List Symbol) :
    Except Fault (α × List Symbol) := do
  let (key?, s) ← nextKey true s
  match key? with
  | none => return (b.object [], s)
  | some k =>
    let (e, s) ← entryValue item k s
    match b.wrapped e.1 e.2 with
    | some x =>
      let x ← x
      let ((), s) ← objectEnd s
      return (x, s)
    | none =>
      let (es, s) ← entries (entryValue item) (s.length + 1) false s
      return (b.object (e :: es), s)

/-- Reads a value that has no parts, from its first symbol. -/
def atom {α : Type} (b : Builder α) (c : Char) (s : List Symbol) : Except Fault (α × List Symbol) :=
  match c with
  | 'n' => do
    let ((), s) ← word ['u', 'l', 'l'] s
    return (b.null, s)
  | 't' => do
    let ((), s) ← word ['r', 'u', 'e'] s
    return (b.bool true, s)
  | 'f' => do
    let ((), s) ← word ['a', 'l', 's', 'e'] s
    return (b.bool false, s)
  | '-' => do
    let (n, s) ← number true s
    return (b.number n, s)
  | '"' => do
    let (x, s) ← string s
    return (b.string x, s)
  | c =>
    if c.isDigit then do
      let (n, s) ← number false (some c :: s)
      return (b.number n, s)
    else .error .noValue

/-- Reads a value with at most `levels` levels of nesting. -/
def value {α : Type} (b : Builder α) (levels : Nat) (s : List Symbol) :
    Except Fault (α × List Symbol) :=
  match skipSpace s with
  | [] => .error .endInValue
  | none :: _ => .error .noValue
  | some c :: r =>
    match levels with
    | 0 => if c = '[' || c = '\x7b' then .error .tooDeep else atom b c r
    | levels + 1 =>
      if c = '[' then do
        let (xs, r) ← items (value b levels) (r.length + 1) true r
        return (b.array xs, r)
      else if c = '\x7b' then object b (value b levels) r
      else atom b c r

/-- Builds data values; of a repeated key the last value stays. -/
def valueBuilder : Builder Value where
  null := .null
  bool := .bool
  number := .number
  string := .string
  array := .array
  object es := .object (Dictionary.ofList es)
  wrapped _ _ := none

/-- Reads a text that holds one data value. -/
def Value.ofText (s : String) : Except Fault Value :=
  whole (value valueBuilder nestingLimit (symbolsOfText s))

end PolicyPack.Json
