import PolicyPack.Yaml.Node
import PolicyPack.Yaml.Scalar

/-!
# Reading typed values from documents

Readers for nodes whose kind is known beforehand, and the data value of a node of any kind. Each
takes the place of its node, which a fault reports.

A reader that comes to an alias goes on with the value that the alias stands for. So that this
ends soon where values stand for each other, a document allows a number of aliases to be followed
that is a hundred times its size.
-/

namespace PolicyPack.Yaml

/-- What reading a part of a document takes: the values with names, by their numbers, and how many
aliases may still be followed. -/
abbrev Reading (α : Type) := ReaderT (List (Nat × Node)) (StateT Nat (Except Fault)) α

/-- Follows an alias. -/
def follow (number : Nat) : Reading Node := do
  match ← get, (← read).lookup number with
  | left + 1, some n =>
    set left
    return n
  | _, _ => throw .malformed

/-- The value that a node is or stands for. -/
def Node.resolve : Node → Reading Node
  | .alias number => follow number
  | n => return n

/-- How many aliases may be followed, for each unit of the size of a document. -/
def aliasesPerUnit : Nat := 100

/-- Reads a whole text. -/
def readDocument {α : Type} (read : Node → Reading α) (text : String) : Except Fault α := do
  let d := Document.ofText text
  let (x, _) ← (read d.root).run (d.root.numbered []) |>.run (aliasesPerUnit * d.root.size)
  if d.isWhole then return x else throw .malformed

/-- The fault of a value that is not of the expected kind. -/
def misfit (place : List PlaceStep) (expected : String) : Node → Fault
  | .scalar p text style =>
    match Scalar.ofText p.tag text style with
    | .ok x => .shape place (.kind x.found expected)
    | .error f => .shape place f
  | .sequence _ _ => .shape place (.kind .sequence expected)
  | .mapping _ _ => .shape place (.kind .map expected)
  | .alias _ => .malformed
  | .broken => .malformed

/-- Reads a text: that of any scalar. -/
def readText (place : List PlaceStep) (expected : String) (n : Node) : Reading String := do
  match ← n.resolve with
  | .scalar _ text _ => return text
  | n => throw (misfit place expected n)

/-- Reads a whole number of 32 bits without sign, which is plain or a literal block with its tag. -/
def readWord32 (place : List PlaceStep) (n : Node) : Reading Nat := do
  match ← n.resolve with
  | .scalar p text style =>
    let mayBeNumber :=
      style == .plain || (style == .literal && p.tag == some (Scalar.standardTag "int"))
    match if mayBeNumber then Scalar.unsigned? 0x10000000000000000 text.toList else none with
    | some n =>
      if n < 0x100000000 then return n else throw (.shape place (.value (.integer n) "u32"))
    | none => throw (misfit place "u32" (.scalar p text style))
  | n => throw (misfit place "u32" n)

/-- Reads the items of a sequence from a position on. -/
def readItems {α : Type} (place : List PlaceStep) (read : List PlaceStep → Node → Reading α)
    (index : Nat) : List Node → Reading (List α)
  | [] => return []
  | n :: r => do
    let x ← read (place ++ [.item index]) n
    return x :: (← readItems place read (index + 1) r)

/-- Whether a node is a scalar that is not written. -/
def isAbsent : Node → Bool
  | .scalar _ text style => text.isEmpty && style == .plain
  | _ => false

/-- Reads a sequence of texts; a value that is not written is one without items. -/
def readTexts (place : List PlaceStep) (n : Node) : Reading (List String) := do
  match ← n.resolve with
  | .sequence _ items => readItems place (fun place n => readText place "a string" n) 0 items
  | n => if isAbsent n then return [] else throw (misfit place "a sequence" n)

/-- The step to the value under a key, the text of the key being known. -/
def stepUnder (text : String) : Node → PlaceStep
  | .scalar _ _ _ => .key text
  | _ => .unnamedKey

/-! ### Data -/

/-- How many collections may be nested. -/
def nestingLimit : Nat := 128

/-- Reads the entries of a mapping whose keys are texts. -/
def readEntries {α : Type} (place : List PlaceStep) (read : List PlaceStep → Node → Reading α)
    (first : Bool) : List (Node × Node) → Reading (List (String × α))
  | [] => return []
  | (k, v) :: r => do
    let key ← readText place (if first then "a string key" else "a string") k
    let x ← read (place ++ [stepUnder key k]) v
    return (key, x) :: (← readEntries place read false r)

/-- The data value of a scalar; one of a whole number that is too wide does not exist. -/
def Scalar.toData : Scalar → Except Fault Json.Value
  | .null => .ok .null
  | .bool b => .ok (.bool b)
  | .integer n => .ok (.number (.int n))
  | .float x => .ok (.number (.float x))
  | .nonFinite _ => .ok .null
  | .string s => .ok (.string s)
  | .wideInteger _ => .error .malformed

/-- Refuses a value with a tag of the document's own. -/
def refuseOwnTag (place : List PlaceStep) (tag : Option String) : Except Fault Unit :=
  if (tag.map Scalar.isOwnTag).getD false then
    .error (.shape place (.kind .tagged "any valid JSON value"))
  else .ok ()

/-- Reads a value of any kind as data, at most `levels` collections being nested. -/
def readData (levels : Nat) (place : List PlaceStep) (n : Node) : Reading Json.Value := do
  match ← n.resolve with
  | .scalar p text style =>
    refuseOwnTag place p.tag
    match Scalar.ofText p.tag text style with
    | .ok x => x.toData
    | .error f => throw (.shape place f)
  | .sequence p items =>
    refuseOwnTag place p.tag
    match levels with
    | 0 => throw .malformed
    | levels + 1 => return .array (← readItems place (readData levels) 0 items)
  | .mapping p entries =>
    refuseOwnTag place p.tag
    match levels with
    | 0 => throw .malformed
    | levels + 1 =>
      return .object (Dictionary.ofList (← readEntries place (readData levels) true entries))
  | _ => throw .malformed

/-- Reads a text that holds one data value. -/
def dataOfText : String → Except Fault Json.Value := readDocument (readData nestingLimit [])

end PolicyPack.Yaml
