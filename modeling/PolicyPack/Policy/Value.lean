import PolicyPack.Json.Printer
import PolicyPack.Json.Reader
import PolicyPack.Number.Decimal

/-!
# Policy values

The values that policies compute with: those of data documents with exact numbers, and sets and
objects with keys of any kind. All values stand in one order, by kind and then by content; the
members of a set and the keys of an object increase in it.
-/

namespace PolicyPack.Policy

/-- A value of a policy. -/
inductive Value where
  | null
  | bool (b : Bool)
  | number (d : Decimal)
  | string (s : String)
  | array (items : List Value)
  /-- Distinct values in increasing order. -/
  | set (members : List Value)
  /-- Values under distinct keys in increasing order. -/
  | object (entries : List (Value × Value))
deriving Inhabited

/-- Why a value cannot be put at a place. -/
inductive Obstacle where
  /-- Another value stands there. -/
  | conflict
  /-- A value on the way is no object. -/
  | noObject
deriving DecidableEq, Repr

namespace Value

/-- The place of the kind of a value in the order. -/
def rank : Value → Nat
  | .null => 0
  | .bool _ => 1
  | .number _ => 2
  | .string _ => 3
  | .array _ => 4
  | .set _ => 5
  | .object _ => 6

mutual

/-- The order of values. -/
def compare : Value → Value → Ordering
  | .bool a, .bool b => Ord.compare a b
  | .number a, .number b => a.compare b
  | .string a, .string b => Ord.compare a b
  | .array as, .array bs => compareItems as bs
  | .set as, .set bs => compareItems as bs
  | .object as, .object bs => compareEntries as bs
  | a, b => Ord.compare a.rank b.rank

/-- The order of sequences: by the first difference, a beginning before the whole. -/
def compareItems : List Value → List Value → Ordering
  | [], [] => .eq
  | [], _ :: _ => .lt
  | _ :: _, [] => .gt
  | a :: as, b :: bs => (compare a b).then (compareItems as bs)

/-- The order of entries: by the first difference, a key before its value. -/
def compareEntries : List (Value × Value) → List (Value × Value) → Ordering
  | [], [] => .eq
  | [], _ :: _ => .lt
  | _ :: _, [] => .gt
  | (k, a) :: as, (l, b) :: bs => (compare k l).then ((compare a b).then (compareEntries as bs))

end

/-- Whether two values are equal. -/
def same (a b : Value) : Bool := compare a b == .eq

/-- Puts a member into a set. -/
def insertMember (x : Value) : List Value → List Value
  | [] => [x]
  | y :: r =>
    match compare x y with
    | .lt => x :: y :: r
    | .eq => y :: r
    | .gt => y :: insertMember x r

/-- Puts a value under a key, in place of the one it had. -/
def insertEntry (k x : Value) : List (Value × Value) → List (Value × Value)
  | [] => [(k, x)]
  | e :: r =>
    match compare k e.1 with
    | .lt => (k, x) :: e :: r
    | .eq => (k, x) :: r
    | .gt => e :: insertEntry k x r

/-- The value under a key. -/
def lookup (k : Value) : List (Value × Value) → Option Value
  | [] => none
  | e :: r => if same k e.1 then some e.2 else lookup k r

/-- The set of the values. -/
def setOf (l : List Value) : Value := .set (l.foldl (fun s x => insertMember x s) [])

/-- The object of the entries, a later one winning over an earlier one of the same key. -/
def objectOf (l : List (Value × Value)) : Value :=
  .object (l.foldl (fun s e => insertEntry e.1 e.2 s) [])

/-- A whole number. -/
def ofNat (n : Nat) : Value := .number (.ofInt n)

/-- Whether a condition with this value holds: everything does but the false truth value. -/
def truthy : Value → Bool
  | .bool b => b
  | _ => true

/-- Whether a value has parts. -/
def isCollection : Value → Bool
  | .array _ | .set _ | .object _ => true
  | _ => false

/-- What can be iterated over: each key with its value, in order. -/
def pairs : Value → List (Value × Value)
  | .array items => items.zipIdx.map fun e => (ofNat e.2, e.1)
  | .set members => members.map fun x => (x, x)
  | .object entries => entries
  | _ => []

/-- The part of a value at a key. -/
def get? (v k : Value) : Option Value :=
  match v, k with
  | .array items, .number d =>
    match d.toInt? with
    | some (.ofNat n) => items[n]?
    | _ => none
  | .set members, k => members.find? (same k)
  | .object entries, k => lookup k entries
  | _, _ => none

/-- The part of a value under keys, one inside the other. -/
def getPath? (v : Value) : List Value → Option Value
  | [] => some v
  | k :: ks => (v.get? k).bind fun x => getPath? x ks

/-! ### Joining -/

/-- The entries with others added, unless one key would get two values. -/
def mergeEntries? (es : List (Value × Value)) : List (Value × Value) → Option (List (Value × Value))
  | [] => some es
  | (k, x) :: r =>
    match lookup k es with
    | none => mergeEntries? (insertEntry k x es) r
    | some y => if same x y then mergeEntries? es r else none

/-- The value that holds all of two: a set their members, an object their entries; other values join
only with themselves. -/
def merge? (a b : Value) : Option Value :=
  if same a b then some a
  else
    match a, b with
    | .set xs, .set ys => some (.set (ys.foldl (fun s x => insertMember x s) xs))
    | .object xs, .object ys => (mergeEntries? xs ys).map .object
    | _, _ => none

/-- Puts a value under keys, one inside the other, objects being made on the way; it joins with the
value that stands there. -/
def placeUnder (x : Value) : List Value → Option Value → Except Obstacle Value
  | [], none => .ok x
  | [], some v =>
    match v.merge? x with
    | some w => .ok w
    | none => .error .conflict
  | k :: ks, v => do
    let es ← match v with
      | none => .ok []
      | some (.object es) => .ok es
      | some _ => .error .noObject
    return .object (insertEntry k (← placeUnder x ks (lookup k es)) es)

/-! ### Reading and writing -/

/-- The number of a data number. -/
def ofNumber : Json.Number → Decimal
  | .int n => .ofInt n
  | .float x => .ofBinary64 x

/-- The key under which an object stands for a number. -/
def wrappedNumberKey : String := "$serde_json::private::Number"

/-- The number that one or more digits write. -/
def digits? (cs : List Char) : Option Nat :=
  if !cs.isEmpty && cs.all Char.isDigit then (String.ofList cs).toNat? else none

/-- The number that a text holds. -/
def decimalOfText? (s : String) : Option Decimal :=
  let (negative, cs) := match s.toList with
    | '-' :: r => (true, r)
    | '+' :: r => (false, r)
    | r => (false, r)
  let (whole, rest) := cs.span Char.isDigit
  let (fraction, rest) := match rest with
    | '.' :: r => r.span Char.isDigit
    | r => ([], r)
  let exponent? : Option Int := match rest with
    | [] => some 0
    | e :: r =>
      if e = 'e' ∨ e = 'E' then
        match r with
        | '-' :: r => (digits? r).map fun n => -(n : Int)
        | '+' :: r => (digits? r).map Int.ofNat
        | r => (digits? r).map Int.ofNat
      else none
  match digits? (whole ++ fraction), exponent? with
  | some n, some e =>
    some (.ofScaled (if negative then -(n : Int) else n) (e - (fraction.length : Int)))
  | _, _ => none

/-- Builds policy values from the text of data. An object whose first entry is a wrapped number is
that number. -/
def builder : Json.Builder Value where
  null := .null
  bool := .bool
  number n := .number (ofNumber n)
  string := .string
  array := .array
  object es := objectOf (es.map fun e => (.string e.1, e.2))
  wrapped k v :=
    match v with
    | .string s =>
      if k = wrappedNumberKey then
        some (match decimalOfText? s with
          | some d => .ok (.number d)
          | none => .error .badWrappedNumber)
      else none
    | _ => none

/-- Reads a text that holds one value. -/
def ofText (s : String) : Except Json.Fault Value :=
  Json.whole (Json.value builder Json.nestingLimit (Json.symbolsOfText s))

/-- The data number nearest to a decimal: its digits read as a data number, or `none` past the range
of floating-point numbers. -/
def toNumber? (d : Decimal) : Option Json.Number :=
  let text := (if d.coefficient < 0 then d.neg else d).render
  match Json.number (d.coefficient < 0) (Json.symbolsOfText text) with
  | .ok (n, []) => some n
  | _ => none

mutual

/-- The data value for a policy value: a set becomes a sequence, and a key that is no text becomes
the text of its data value. There is none when a number is past the floating-point range. -/
def toData? : Value → Option Json.Value
  | .null => some .null
  | .bool b => some (.bool b)
  | .number d => (toNumber? d).map Json.Value.number
  | .string s => some (.string s)
  | .array items => (itemsToData? items).map Json.Value.array
  | .set members => (itemsToData? members).map Json.Value.array
  | .object entries => (entriesToData? entries).map fun es => .object (Dictionary.ofList es)

/-- The data values for a list of policy values. -/
def itemsToData? : List Value → Option (List Json.Value)
  | [] => some []
  | v :: r => do
    let x ← toData? v
    let xs ← itemsToData? r
    return x :: xs

/-- The data values for a list of entries, under the texts of their keys. -/
def entriesToData? : List (Value × Value) → Option (List (String × Json.Value))
  | [] => some []
  | (k, v) :: r => do
    let key ← match k with
      | .string s => some s
      | k => (toData? k).map Json.Value.render
    let x ← toData? v
    let xs ← entriesToData? r
    return (key, x) :: xs

end

end Value

end PolicyPack.Policy
