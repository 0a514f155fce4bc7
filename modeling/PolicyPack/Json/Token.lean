import PolicyPack.Json.Fault
import PolicyPack.Json.Value
import PolicyPack.Text.Utf8

/-!
# The tokens of data text

Blank space, words, numbers and quoted texts, each read from the front of the input. The input is a
list of symbols: a character, or `none` for bytes that are no text, which only matter inside a
quoted text.

A number that is no whole number of 64 bits becomes a floating-point number in three roundings: the
significand holds as many leading digits as 64 bits take, it is rounded, and it is multiplied or
divided by a rounded power of ten.
-/

namespace PolicyPack.Json

/-- A character of the input, or bytes that are no text. -/
abbrev Symbol := Option Char

/-- The result of reading from the front of the input: what was read, and the input that is left. -/
abbrev Reading (α : Type) := Except Fault (α × List Symbol)

/-- The symbols of a text. -/
def symbolsOfText (s : String) : List Symbol := s.toList.map some

/-- The symbols of bytes. -/
def symbolsOfBytes (bytes : ByteArray) : List Symbol :=
  match String.fromUTF8? bytes with
  | some s => symbolsOfText s
  | none =>
    (Text.pieces bytes.toList).map fun
      | .char c => some c
      | _ => none

/-- The four characters that may stand between tokens. -/
def isSpace (c : Char) : Bool := c == ' ' || c == '\n' || c == '\t' || c == '\r'

/-- Drops blank space from the front. -/
def skipSpace : List Symbol → List Symbol
  | some c :: r => if isSpace c then skipSpace r else some c :: r
  | s => s

/-- Reads the rest of a word whose first letter has been read. -/
def word : List Char → List Symbol → Except Fault (Unit × List Symbol)
  | [], s => .ok ((), s)
  | _ :: _, [] => .error .endInValue
  | c :: cs, x :: s => if x = some c then word cs s else .error .badWord

/-! ### Numbers -/

/-- The value of a decimal digit. -/
def digit? (c : Char) : Option Nat := if c.isDigit then some (c.toNat - 48) else none

/-- The digits at the front, and what follows them. -/
def takeDigits : List Symbol → List Nat × List Symbol
  | some c :: s =>
    match digit? c with
    | some d => (d :: (takeDigits s).1, (takeDigits s).2)
    | none => ([], some c :: s)
  | s => ([], s)

/-- The first number past the range of an unsigned 64-bit integer. -/
def wordEnd : Nat := 0x10000000000000000

/-- Leading digits of a number and the power of ten they are to be multiplied by. -/
structure Scaled where
  /-- The digits kept. -/
  significand : Nat
  /-- The power of ten. -/
  exponent : Int

/-- Takes in digits before the point: once one does not fit, it and all later ones only count. -/
def Scaled.addWhole (x : Scaled) : List Nat → Scaled
  | [] => x
  | d :: ds =>
    if x.significand * 10 + d < wordEnd then
      addWhole { x with significand := x.significand * 10 + d } ds
    else { x with exponent := x.exponent + (ds.length + 1) }

/-- Takes in digits after the point: once one does not fit, it and all later ones are dropped. -/
def Scaled.addFraction (x : Scaled) : List Nat → Scaled
  | [] => x
  | d :: ds =>
    if x.significand * 10 + d < wordEnd then
      addFraction ⟨x.significand * 10 + d, x.exponent - 1⟩ ds
    else x

/-- The power of ten nearest to `10 ^ k`, for `k` up to 308. -/
def powerOfTen (k : Nat) : Binary64 := (Binary64.ofNat? (Nat.pow 10 k)).getD default

/-- Multiplies by a power of ten, dividing by `10 ^ 308` first while the power is below that. -/
def scaleBy (fuel : Nat) (x : Binary64) (e : Int) : Except Fault Binary64 :=
  if e.natAbs ≤ 308 then
    match if 0 ≤ e then x.mul? (powerOfTen e.natAbs) else x.div? (powerOfTen e.natAbs) with
    | some y => .ok y
    | none => .error .hugeNumber
  else if x.isZero then .ok x
  else if 0 ≤ e then .error .hugeNumber
  else
    match fuel with
    | 0 => .ok (Binary64.zero false)
    | fuel + 1 => scaleBy fuel ((x.div? (powerOfTen 308)).getD default) (e + 308)

/-- The floating-point number of scaled digits. The quotient of a 64-bit number by `10 ^ 308` is
zero after two steps, so four suffice. -/
def Scaled.toFloat (negative : Bool) (x : Scaled) : Except Fault Number := do
  let y ← scaleBy 4 ((Binary64.ofNat? x.significand).getD default) x.exponent
  return .float (if negative then y.neg else y)

/-- The number of a literal without point and exponent. -/
def Scaled.toWhole (negative : Bool) (x : Scaled) : Except Fault Number :=
  if x.exponent ≠ 0 then x.toFloat negative
  else if !negative then .ok (.int x.significand)
  else if x.significand = 0 || 0x8000000000000000 < x.significand then x.toFloat true
  else .ok (.int (-x.significand))

/-- Reads the exponent after its letter, for digits scaled so far. -/
def exponentPart (negative : Bool) (x : Scaled) (s : List Symbol) :
    Except Fault (Number × List Symbol) := do
  let (down, s) := match s with
    | some '+' :: r => (false, r)
    | some '-' :: r => (true, r)
    | r => (false, r)
  if s.isEmpty then throw .endInValue
  let (ds, s) := takeDigits s
  if ds.isEmpty then throw .badNumber
  let e : Int := (ds.foldl (fun (n d : Nat) => n * 10 + d) 0 : Nat)
  let total := if down then x.exponent - e else x.exponent + e
  let n ← Scaled.toFloat negative { x with exponent := total }
  return (n, s)

/-- Reads what follows the digits before the point. -/
def afterWhole (negative : Bool) (x : Scaled) : List Symbol → Except Fault (Number × List Symbol)
  | some '.' :: s => do
    let (ds, s) := takeDigits s
    if ds.isEmpty then throw (if s.isEmpty then .endInValue else .badNumber)
    let x := x.addFraction ds
    match s with
    | some 'e' :: s => exponentPart negative x s
    | some 'E' :: s => exponentPart negative x s
    | s => return (← x.toFloat negative, s)
  | some 'e' :: s => exponentPart negative x s
  | some 'E' :: s => exponentPart negative x s
  | s => do return (← x.toWhole negative, s)

/-- Reads a number after its sign. A zero stands alone before the point. -/
def number (negative : Bool) (s : List Symbol) : Except Fault (Number × List Symbol) :=
  match takeDigits s with
  | ([], []) => .error .endInValue
  | ([], _) => .error .badNumber
  | (0 :: _ :: _, _) => .error .badNumber
  | (ds, s) => afterWhole negative (Scaled.addWhole ⟨0, 0⟩ ds) s

/-! ### Quoted texts -/

/-- The value of a hexadecimal digit of either case. -/
def hexValue? (c : Char) : Option Nat :=
  if c.isDigit then some (c.toNat - 48)
  else if 'a' ≤ c && c ≤ 'f' then some (c.toNat - 87)
  else if 'A' ≤ c && c ≤ 'F' then some (c.toNat - 55)
  else none

/-- The number of bytes of a symbol. -/
def symbolBytes : Symbol → Nat
  | some c => c.utf8Size
  | none => 1

/-- Reads four hexadecimal digits. The input ends early when fewer than four bytes are left. -/
def fourHex (s : List Symbol) : Except Fault (Nat × List Symbol) :=
  match s with
  | some a :: some b :: some c :: some d :: r =>
    match hexValue? a, hexValue? b, hexValue? c, hexValue? d with
    | some a, some b, some c, some d => .ok (((a * 16 + b) * 16 + c) * 16 + d, r)
    | _, _, _, _ => .error .badEscape
  | s =>
    if 4 ≤ (s.take 4).foldl (fun n x => n + symbolBytes x) 0 then .error .badEscape
    else .error .endInString

/-- Reads the second half of a surrogate pair whose leading half is `high`. -/
def secondSurrogate (high : Nat) (s : List Symbol) : Except Fault (Char × List Symbol) :=
  match s with
  | [] => .error .endInString
  | [some '\\'] => .error .endInString
  | some '\\' :: some 'u' :: r => do
    let (low, r) ← fourHex r
    if low < 0xdc00 || 0xdfff < low then throw .loneSurrogate
    return (Char.ofNat (0x10000 + (high - 0xd800) * 0x400 + (low - 0xdc00)), r)
  | _ => .error .unpairedEscape

/-- Reads an escape after its backslash. -/
def escape (s : List Symbol) : Except Fault (Char × List Symbol) :=
  match s with
  | [] => .error .endInString
  | some '"' :: r => .ok ('"', r)
  | some '\\' :: r => .ok ('\\', r)
  | some '/' :: r => .ok ('/', r)
  | some 'b' :: r => .ok ('\x08', r)
  | some 'f' :: r => .ok ('\x0c', r)
  | some 'n' :: r => .ok ('\n', r)
  | some 'r' :: r => .ok ('\r', r)
  | some 't' :: r => .ok ('\t', r)
  | some 'u' :: r => do
    let (n, r) ← fourHex r
    if 0xdc00 ≤ n && n ≤ 0xdfff then throw .loneSurrogate
    if 0xd800 ≤ n && n ≤ 0xdbff then secondSurrogate n r
    else return (Char.ofNat n, r)
  | _ => .error .badEscape

/-- Whether the symbol is a control character below the space. -/
def isControl : Symbol → Bool
  | some c => c.toNat < 0x20
  | none => false

/-- Reads a quoted text up to its closing quote; every step takes a symbol off the input, so `fuel`
steps suffice for an input that is shorter. -/
def stringSymbols (fuel : Nat) (s : List Symbol) : Except Fault (List Symbol × List Symbol) :=
  match fuel with
  | 0 => .error .endInString
  | fuel + 1 =>
    match s with
    | [] => .error .endInString
    | some '"' :: r => .ok ([], r)
    | some '\\' :: r => do
      let (c, r) ← escape r
      let (cs, r) ← stringSymbols fuel r
      return (some c :: cs, r)
    | x :: r => do
      if isControl x then throw .controlCharacter
      let (cs, r) ← stringSymbols fuel r
      return (x :: cs, r)

/-- Reads a quoted text after its opening quote. Whether all of it is text is decided at its end. -/
def string (s : List Symbol) : Except Fault (String × List Symbol) := do
  let (xs, r) ← stringSymbols (s.length + 1) s
  if xs.all Option.isSome then return (String.ofList (xs.filterMap id), r)
  else throw .notText

/-! ### Between the entries of a container -/

/-- Moves to the next item of a sequence, or past its end. -/
def nextItem (first : Bool) (s : List Symbol) : Except Fault (Bool × List Symbol) :=
  match skipSpace s with
  | [] => .error .endInArray
  | some ']' :: r => .ok (false, r)
  | some ',' :: r =>
    if first then .ok (true, some ',' :: r)
    else
      match skipSpace r with
      | [] => .error .endInValue
      | some ']' :: _ => .error .trailingComma
      | r => .ok (true, r)
  | r => if first then .ok (true, r) else .error .noArrayEnd

/-- Reads a key that must begin here. -/
def keyHere (s : List Symbol) : Except Fault (Option String × List Symbol) :=
  match s with
  | some '"' :: r => do
    let (k, r) ← string r
    return (some k, r)
  | _ => .error .keyNotString

/-- Reads the next key of an object, or its end. -/
def nextKey (first : Bool) (s : List Symbol) : Except Fault (Option String × List Symbol) :=
  match skipSpace s with
  | [] => .error .endInObject
  | some '\x7d' :: r => .ok (none, r)
  | some ',' :: r =>
    if first then .error .keyNotString
    else
      match skipSpace r with
      | [] => .error .endInValue
      | some '\x7d' :: _ => .error .trailingComma
      | r => keyHere r
  | r => if first then keyHere r else .error .noObjectEnd

/-- Reads the colon after a key. -/
def colon (s : List Symbol) : Except Fault (Unit × List Symbol) :=
  match skipSpace s with
  | [] => .error .endInObject
  | some ':' :: r => .ok ((), r)
  | _ => .error .noColon

/-- Reads the end of an object after an entry that must be its last. -/
def objectEnd (s : List Symbol) : Except Fault (Unit × List Symbol) :=
  match skipSpace s with
  | [] => .error .endInObject
  | some '\x7d' :: r => .ok ((), r)
  | some ',' :: _ => .error .trailingComma
  | _ => .error .trailingText

/-- Reads the end of a sequence after an item that must be its last. -/
def arrayEnd (s : List Symbol) : Except Fault (Unit × List Symbol) :=
  match skipSpace s with
  | [] => .error .endInArray
  | some ']' :: r => .ok ((), r)
  | some ',' :: r =>
    match skipSpace r with
    | some ']' :: _ => .error .trailingComma
    | _ => .error .trailingText
  | _ => .error .trailingText

/-- Whatever was read must be followed by nothing but blank space. -/
def whole {α : Type} (r : Reading α) : Except Fault α := do
  let (x, s) ← r
  if (skipSpace s).isEmpty then return x else throw .trailingText

end PolicyPack.Json
