import PolicyPack.Policy.Format
import PolicyPack.Text.Casing

/-!
# Built-in functions

Each built-in function takes values to a value, to nothing, or to a fault when an argument is of the
wrong kind. Texts are cut and compared by their characters, and measured in units of 16 bits.
-/

namespace PolicyPack.Policy.Builtin

/-- What a built-in function makes of its arguments. -/
abbrev Result := Except Fault (Option Value)

/-- The fault of an argument of the wrong kind. -/
def wrongKind (source : String) : Fault := .diagnostic source .operandKind

/-- The members of a sequence or a set. -/
def members? : Value → Option (List Value)
  | .array items => some items
  | .set items => some items
  | _ => none

/-- The numbers of a collection, if all of its members are numbers. -/
def numbers? (v : Value) : Option (List Decimal) :=
  (members? v).bind fun l => l.mapM fun
    | .number d => some d
    | _ => none

/-- The texts of a collection, if all of its members are texts. -/
def strings? (v : Value) : Option (List String) :=
  (members? v).bind fun l => l.mapM fun
    | .string s => some s
    | _ => none

/-- The number of units of 16 bits that a text takes: characters past the first 65536 take two. -/
def textUnits (s : String) : Nat :=
  s.toList.foldl (fun n c => n + if c.val < 0x10000 then 1 else 2) 0

/-- The number of members or entries, or of the units of a text. -/
def count? : Value → Option Nat
  | .array items => some items.length
  | .set items => some items.length
  | .object entries => some entries.length
  | .string s => some (textUnits s)
  | _ => none

/-- The greatest of the values, or the least with the order turned round. -/
def extreme? (keep : Ordering) : List Value → Option Value
  | [] => none
  | v :: vs => some (vs.foldl (fun m x => if Value.compare x m == keep then x else m) v)

/-- The pieces of a text between the occurrences of a separator; without a separator each character
is a piece. -/
def splitText (s separator : String) : List String :=
  if separator.isEmpty then s.toList.map Char.toString
  else s.splitOn separator

/-- Whether one list of characters occurs within another. -/
def occursIn (needle : List Char) : List Char → Bool
  | [] => needle.isEmpty
  | c :: r => needle.isPrefixOf (c :: r) || occursIn needle r

/-! ### The table -/

/-- The number of arguments of each built-in function. -/
def arity? (name : String) : Option Nat :=
  [("count", 1), ("sum", 1), ("max", 1), ("min", 1), ("startswith", 2), ("endswith", 2),
    ("contains", 2), ("upper", 1), ("lower", 1), ("split", 2), ("concat", 2), ("sprintf", 2),
    ("object.get", 3), ("is_number", 1), ("is_string", 1), ("is_boolean", 1), ("is_null", 1),
    ("is_array", 1), ("is_object", 1), ("is_set", 1)].lookup name

/-- The value of a built-in function at the right number of arguments. -/
def apply (source name : String) (arguments : List Value) : Result :=
  let wrong : Result := .error (wrongKind source)
  let yes (b : Bool) : Result := .ok (some (.bool b))
  match name, arguments with
  | "count", [v] =>
    match count? v with
    | some n => .ok (some (Value.ofNat n))
    | none => wrong
  | "sum", [v] =>
    match numbers? v with
    | some ds => .ok (some (.number (ds.foldl Decimal.add .zero)))
    | none => wrong
  | "max", [v] =>
    match members? v with
    | some vs => .ok (extreme? .gt vs)
    | none => wrong
  | "min", [v] =>
    match members? v with
    | some vs => .ok (extreme? .lt vs)
    | none => wrong
  | "startswith", [.string s, .string t] => yes (t.toList.isPrefixOf s.toList)
  | "endswith", [.string s, .string t] => yes (t.toList.isSuffixOf s.toList)
  | "contains", [.string s, .string t] => yes (occursIn t.toList s.toList)
  | "upper", [.string s] => .ok (some (.string (Text.toUpper s)))
  | "lower", [.string s] => .ok (some (.string (Text.toLower s)))
  | "split", [.string s, .string t] => .ok (some (.array ((splitText s t).map Value.string)))
  | "concat", [.string s, v] =>
    match strings? v with
    | some ts => .ok (some (.string (s.intercalate ts)))
    | none => wrong
  | "sprintf", [.string f, .array args] => do
    return some (.string (← Format.apply source f args))
  | "object.get", [.object es, k, d] =>
    match k with
    | .array ks => .ok (some ((Value.getPath? (.object es) ks).getD d))
    | k => .ok (some ((Value.lookup k es).getD d))
  | "is_number", [v] => yes (v.rank == 2)
  | "is_string", [v] => yes (v.rank == 3)
  | "is_boolean", [v] => yes (v.rank == 1)
  | "is_null", [v] => yes (v.rank == 0)
  | "is_array", [v] => yes (v.rank == 4)
  | "is_object", [v] => yes (v.rank == 6)
  | "is_set", [v] => yes (v.rank == 5)
  | _, _ => wrong

end PolicyPack.Policy.Builtin
