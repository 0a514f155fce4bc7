import PolicyPack.Json.Reader

/-!
# Reading typed data

Readers for values whose kind is known beforehand. A value of another kind is reported when it
begins, after no more of it has been read than the report names. A record is written as an object,
whose unknown keys are passed over, or as a sequence of its fields in their order.
-/

namespace PolicyPack.Json

/-- The fault of a value that is not of the expected kind: a fault inside it, or what it is. -/
def misfit (expected : String) (s : List Symbol) : Fault :=
  let report (found : Found) : Fault := .shape (.kind found expected)
  let reportNumber (r : Except Fault (Number × List Symbol)) : Fault :=
    match r with
    | .error f => f
    | .ok (.int n, _) => report (.integer n)
    | .ok (.float x, _) => report (.float (floatLayout.renderBinary64 x))
  let reportWord (r : Except Fault (Unit × List Symbol)) (found : Found) : Fault :=
    match r with
    | .error f => f
    | .ok _ => report found
  match s with
  | some 'n' :: r => reportWord (word ['u', 'l', 'l'] r) (.nothing "null")
  | some 't' :: r => reportWord (word ['r', 'u', 'e'] r) (.bool true)
  | some 'f' :: r => reportWord (word ['a', 'l', 's', 'e'] r) (.bool false)
  | some '-' :: r => reportNumber (number true r)
  | some '"' :: r =>
    match string r with
    | .error f => f
    | .ok (x, _) => report (.string x)
  | some '[' :: _ => report .sequence
  | some '\x7b' :: _ => report .map
  | some c :: _ => if c.isDigit then reportNumber (number false s) else .noValue
  | _ => .noValue

/-- Reads a whole number of 32 bits without sign. -/
def word32 (s : List Symbol) : Except Fault (Nat × List Symbol) := do
  let check (r : Except Fault (Number × List Symbol)) : Except Fault (Nat × List Symbol) := do
    match ← r with
    | (.int n, s) =>
      if 0 ≤ n && n < 0x100000000 then return (n.toNat, s)
      else throw (.shape (.value (.integer n) "u32"))
    | (.float x, _) => throw (.shape (.kind (.float (floatLayout.renderBinary64 x)) "u32"))
  match skipSpace s with
  | [] => throw .endInValue
  | some '-' :: r => check (number true r)
  | some c :: r =>
    if c.isDigit then check (number false (some c :: r)) else throw (misfit "u32" (some c :: r))
  | r => throw (misfit "u32" r)

/-- Reads a text. -/
def text (s : List Symbol) : Except Fault (String × List Symbol) :=
  match skipSpace s with
  | [] => .error .endInValue
  | some '"' :: r => string r
  | r => .error (misfit "a string" r)

/-- Reads a sequence whose items are all read alike. -/
def listOf {α : Type} (item : Nat → List Symbol → Except Fault (α × List Symbol)) (levels : Nat)
    (s : List Symbol) : Except Fault (List α × List Symbol) :=
  match skipSpace s with
  | [] => .error .endInValue
  | some '[' :: r =>
    match levels with
    | 0 => .error .tooDeep
    | levels + 1 => items (item levels) (r.length + 1) true r
  | r => .error (misfit "a sequence" r)

/-- Reads a data value. -/
def anyValue (levels : Nat) (s : List Symbol) : Except Fault (Value × List Symbol) :=
  value valueBuilder levels s

/-- Reads an object with values of any kind. -/
def mapOfValues (levels : Nat) (s : List Symbol) :
    Except Fault (Dictionary Value × List Symbol) :=
  match skipSpace s with
  | [] => .error .endInValue
  | some '\x7b' :: r =>
    match levels with
    | 0 => .error .tooDeep
    | levels + 1 => do
      let (es, r) ← entries (entryValue (anyValue levels)) (r.length + 1) true r
      return (Dictionary.ofList es, r)
  | r => .error (misfit "a map" r)

/-- Reads a value that may be null. -/
def optional {α : Type} (read : Nat → List Symbol → Except Fault (α × List Symbol)) (levels : Nat)
    (s : List Symbol) : Except Fault (Option α × List Symbol) :=
  match skipSpace s with
  | [] => .error .endInValue
  | some 'n' :: r => do
    let ((), r) ← word ['u', 'l', 'l'] r
    return (none, r)
  | r => do
    let (x, r) ← read levels r
    return (some x, r)

/-! ### Passing over a value -/

/-- Passes over a quoted text after its opening quote. Escapes need only have the right form. -/
def skipString (fuel : Nat) (s : List Symbol) : Except Fault (Unit × List Symbol) :=
  match fuel with
  | 0 => .error .endInString
  | fuel + 1 =>
    match s with
    | [] => .error .endInString
    | some '"' :: r => .ok ((), r)
    | some '\\' :: r =>
      match r with
      | [] => .error .endInString
      | some 'u' :: r => do
        let (_, r) ← fourHex r
        skipString fuel r
      | some c :: r =>
        if c ∈ ['"', '\\', '/', 'b', 'f', 'n', 'r', 't'] then skipString fuel r
        else .error .badEscape
      | none :: _ => .error .badEscape
    | x :: r => if isControl x then .error .controlCharacter else skipString fuel r

/-- Passes over the exponent of a number after its letter. -/
def skipExponent (s : List Symbol) : Except Fault (Unit × List Symbol) :=
  let s := match s with
    | some '+' :: r => r
    | some '-' :: r => r
    | r => r
  match takeDigits s with
  | ([], _) => .error .badNumber
  | (_, r) => .ok ((), r)

/-- Passes over a number after its sign. Its size does not matter. -/
def skipNumber (s : List Symbol) : Except Fault (Unit × List Symbol) :=
  match takeDigits s with
  | ([], _) => .error .badNumber
  | (0 :: _ :: _, _) => .error .badNumber
  | (_, some '.' :: r) =>
    match takeDigits r with
    | ([], _) => .error .badNumber
    | (_, some 'e' :: r) => skipExponent r
    | (_, some 'E' :: r) => skipExponent r
    | (_, r) => .ok ((), r)
  | (_, some 'e' :: r) => skipExponent r
  | (_, some 'E' :: r) => skipExponent r
  | (_, r) => .ok ((), r)

/-- Passes over a value that has no parts, from its first symbol. -/
def skipAtom (c : Char) (s : List Symbol) : Except Fault (Unit × List Symbol) :=
  match c with
  | 'n' => word ['u', 'l', 'l'] s
  | 't' => word ['r', 'u', 'e'] s
  | 'f' => word ['a', 'l', 's', 'e'] s
  | '-' => skipNumber s
  | '"' => skipString (s.length + 1) s
  | c => if c.isDigit then skipNumber (some c :: s) else .error .noValue

/-- The kind of a container. -/
inductive Container where
  | array
  | object
deriving DecidableEq

/-- The fault of a text that ends inside the container. -/
def Container.endFault : Container → Fault
  | .array => .endInArray
  | .object => .endInObject

/-- The fault of an entry that neither a comma nor the end of the container follows. -/
def Container.separatorFault : Container → Fault
  | .array => .noArrayEnd
  | .object => .noObjectEnd

/-- Passes over a key and its colon. -/
def skipKey (s : List Symbol) : Except Fault (Unit × List Symbol) := do
  match skipSpace s with
  | [] => throw .endInObject
  | some '"' :: r =>
    let ((), r) ← skipString (r.length + 1) r
    colon r
  | _ => throw .keyNotString

/-- Passes over a value, and then over what is left of the containers that were open, the innermost
first. Nesting is not limited, and each step takes a symbol off the input. -/
def skipOpen (fuel : Nat) (stack : List Container) (s : List Symbol) :
    Except Fault (Unit × List Symbol) :=
  match fuel with
  | 0 => .error .endInValue
  | fuel + 1 =>
    match skipSpace s with
    | [] => .error .endInValue
    | some '[' :: r => close fuel false .array stack r
    | some '\x7b' :: r => close fuel false .object stack r
    | none :: _ => .error .noValue
    | some c :: r => do
      let ((), r) ← skipAtom c r
      match stack with
      | [] => return ((), r)
      | c :: stack => close fuel true c stack r
where
  /-- Goes on inside a container, `used` telling whether it has an entry already. -/
  close (fuel : Nat) (used : Bool) (c : Container) (stack : List Container) (s : List Symbol) :
      Except Fault (Unit × List Symbol) :=
    match fuel with
    | 0 => .error .endInValue
    | fuel + 1 =>
      let next (s : List Symbol) : Except Fault (Unit × List Symbol) :=
        match c with
        | .array => skipOpen fuel (c :: stack) s
        | .object => do
          let ((), s) ← skipKey s
          skipOpen fuel (c :: stack) s
      let done (s : List Symbol) : Except Fault (Unit × List Symbol) :=
        match stack with
        | [] => .ok ((), s)
        | d :: stack => close fuel true d stack s
      match skipSpace s with
      | [] => .error c.endFault
      | some ',' :: r => if used then next r else next (some ',' :: r)
      | some ']' :: r =>
        if c = .array then done r
        else if used then .error c.separatorFault else next (some ']' :: r)
      | some '\x7d' :: r =>
        if c = .object then done r
        else if used then .error c.separatorFault else next (some '\x7d' :: r)
      | r => if used then .error c.separatorFault else next r

/-- Passes over a value. -/
def skipValue (s : List Symbol) : Except Fault (Unit × List Symbol) :=
  skipOpen (2 * s.length + 2) [] s

/-! ### Records -/

/-- One field of a record that is being read into a draft of type `σ`. -/
structure Field (σ : Type) where
  /-- The key of the field. -/
  name : String
  /-- Whether the draft has the field already. -/
  present : σ → Bool
  /-- Whether the field may be left out. -/
  mayLack : Bool
  /-- Reads the field into the draft. -/
  read : Nat → σ → List Symbol → Except Fault (σ × List Symbol)

/-- How a record is read: into a draft, field by field, and then into its final form. -/
structure Record (σ α : Type) where
  /-- The name of the record in messages. -/
  name : String
  /-- The draft before any field is read. -/
  blank : σ
  /-- The fields in their order. -/
  fields : List (Field σ)
  /-- The record of a draft that has every field it needs. -/
  finish : σ → Option α

namespace Record

variable {σ α : Type}

/-- The wording of what the record expects. -/
def expected (r : Record σ α) : String := "struct " ++ r.name

/-- The record of a draft, or the first field that it needs and does not have. -/
def close (r : Record σ α) (d : σ) : Except Fault α :=
  match r.fields.find? fun f => !f.mayLack && !f.present d with
  | some f => .error (.shape (.missing f.name))
  | none =>
    match r.finish d with
    | some x => .ok x
    | none => .error (.shape (.missing r.name))

/-- Reads the entries of a record written as an object. A field that comes twice is reported at its
second key. -/
def ofEntries (r : Record σ α) (levels fuel : Nat) (first : Bool) (d : σ) (s : List Symbol) :
    Except Fault (α × List Symbol) :=
  match fuel with
  | 0 => .error .endInObject
  | fuel + 1 => do
    let (key?, s) ← nextKey first s
    match key? with
    | none => return (← r.close d, s)
    | some k =>
      match r.fields.find? fun f => f.name == k with
      | some f =>
        if f.present d then throw (.shape (.duplicate k))
        let ((), s) ← colon s
        let (d, s) ← f.read levels d s
        ofEntries r levels fuel false d s
      | none =>
        let ((), s) ← colon s
        let ((), s) ← skipValue s
        ofEntries r levels fuel false d s

/-- Reads the fields of a record written as a sequence, `index` of them read so far. -/
def ofItems (r : Record σ α) (levels index : Nat) (d : σ) (s : List Symbol) :
    List (Field σ) → Except Fault (σ × List Symbol)
  | [] => .ok (d, s)
  | f :: fs => do
    let (more, after) ← nextItem (index == 0) s
    if more then
      let (d, s) ← f.read levels d after
      ofItems r levels (index + 1) d s fs
    else if f.mayLack then
      -- the end stays in place, so every later field meets it again
      ofItems r levels index d s fs
    else throw (.shape (.length index s!"{r.expected} with {r.fields.length} elements"))

/-- Reads a record. -/
def read (r : Record σ α) (levels : Nat) (s : List Symbol) : Except Fault (α × List Symbol) :=
  match skipSpace s with
  | [] => .error .endInValue
  | some '\x7b' :: s =>
    match levels with
    | 0 => .error .tooDeep
    | levels + 1 => r.ofEntries levels (s.length + 1) true r.blank s
  | some '[' :: s =>
    match levels with
    | 0 => .error .tooDeep
    | levels + 1 => do
      let (d, s) ← r.ofItems levels 0 r.blank s r.fields
      let x ← r.close d
      let ((), s) ← arrayEnd s
      return (x, s)
  | s => .error (misfit r.expected s)

end Record

end PolicyPack.Json
