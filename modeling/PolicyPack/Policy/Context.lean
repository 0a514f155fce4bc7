import PolicyPack.Policy.Builtin
import PolicyPack.Policy.Order
import PolicyPack.Policy.Scope
import PolicyPack.Policy.Task

/-!
# Where evaluation stands

An evaluation of a term takes place in a context, which says what the names in it mean. It makes
progress: rules that it meets put their values into the documents, each of them once.
-/

namespace PolicyPack.Policy

/-- What has come of the rules so far. -/
structure Progress where
  /-- The base document with the values of the rules evaluated so far. -/
  documents : Value
  /-- The rules evaluated. -/
  rulesDone : List Nat := []
  /-- The defaults considered. -/
  standbysDone : List Nat := []
  /-- The values of the rules that have one, by the places of their documents. -/
  given : List (List Value × Value) := []

/-- A step of an evaluation. -/
abbrev Run := StateT Progress (Except Fault)

/-- Where evaluation takes place. -/
structure Context where
  /-- The modules and the data. -/
  program : Program
  /-- The input document, if there is one. -/
  input : Option Value
  /-- The name diagnostics give the text being evaluated. -/
  source : String
  /-- The module, or none in a query. -/
  home : Option Module := none
  /-- The rules being evaluated, the innermost first. -/
  active : List Definition := []
  /-- The local variables. -/
  scope : Scope := .fresh
  /-- The parts that selections stand for, by their places. -/
  chosen : List (Nat × Value) := []
  /-- Whether the first way for a body to hold is enough. -/
  once : Bool := false
  /-- Whether names of documents have no value, as inside of patterns. -/
  localOnly : Bool := false

namespace Context

/-- A fault in the text being evaluated. -/
def fault (c : Context) (cause : Cause) : Fault := .diagnostic c.source cause

/-- The package of the module. -/
def package (c : Context) : Option (List String) := c.home.map Module.package

/-- The context in the text of a module. -/
def inModule (c : Context) (m : Module) : Context where
  program := c.program
  input := c.input
  source := m.source
  home := some m
  active := c.active

/-- The context in a body of its own. -/
def nested (c : Context) : Context := { c with scope := c.scope.inner, once := false }

/-- The context where a selection stands for a part. -/
def choose (c : Context) (place : Nat) (v : Value) : Context :=
  { c with chosen := (place, v) :: c.chosen }

/-- The path of a package document that a name means. -/
def packagePath? (c : Context) (x : String) : Option (List String) :=
  c.package.map fun p => p ++ [x]

/-- The path of the document that a name was imported for. -/
def importPath? (c : Context) (x : String) : Option (List String) :=
  c.package.bind fun p => c.program.importOf? p x

/-- Whether a name means a document. -/
def isDocument (c : Context) (x : String) : Bool :=
  x == "data" || x == "input" || (c.packagePath? x).any c.program.hasRule ||
    (c.importPath? x).isSome

/-- Whether a name is open: a variable without a value that means no document. A key runs over an
open name, and an equation gives it a value. -/
def isOpen (c : Context) (x : String) : Bool :=
  match c.scope.held? x with
  | some v => v.isNone
  | none => !c.isDocument x

/-- The selections among some whose keys run over all parts of what they select from. -/
def loops (c : Context) (l : List Selection) : List Selection :=
  l.filter fun e => e.key.hasWildcard || e.key.patternVariables.any c.isOpen

/-- The place of a function by the name it is called with: in the package, or anywhere below the
root. -/
def functionPath (c : Context) (callee : List String) : List String :=
  match callee with
  | "data" :: path => path
  | _ => (c.package.getD []) ++ callee

/-- The rules of a function by the name it is called with. -/
def functions (c : Context) (callee : List String) : List (Definition × List Term) :=
  if c.package.isNone && callee.head? != some "data" then []
  else c.program.functionsAt (c.functionPath callee)

/-- The default of a function by the name it is called with. -/
def functionDefault? (c : Context) (callee : List String) : Option Standby :=
  if c.package.isNone && callee.head? != some "data" then none
  else c.program.functionDefault? (c.functionPath callee)

/-- The number of arguments of a function of the program, given by its rules or else by its
default. -/
def ownArity? (c : Context) (callee : List String) : Option Nat :=
  match c.functions callee with
  | f :: _ => some f.2.length
  | [] => (c.functionDefault? callee).bind fun d => d.value.parameters.map List.length

/-- The number of arguments of a function, one of the program before a built-in one. -/
def arity? (c : Context) (callee : List String) : Option Nat :=
  (c.ownArity? callee).or (Builtin.arity? (".".intercalate callee))

/-- What the conditions of a body find. -/
def surroundings (c : Context) : Surroundings where
  isKnown x := (c.scope.value? x).isSome || c.isDocument x
  arity? := c.arity?

/-- The open name that a term is. -/
def openName? (c : Context) : Term → Option String
  | .var x => if c.isOpen x then some x else none
  | _ => none

/-- The fault of a rule that depends on itself, which is that of the outermost rule evaluated. -/
def recursionFault (c : Context) (d : Definition) : Fault :=
  .diagnostic ((c.active.getLast?.getD d).home.source) (.recursion d.rule.name)

end Context

/-- A way for conditions to hold. -/
structure Solution where
  /-- The local variables. -/
  scope : Scope
  /-- The parts that selections stand for. -/
  chosen : List (Nat × Value)
  /-- The values shown for the conditions, in the order of their evaluation. -/
  shown : List (Option Value)

/-- The context where a solution holds. -/
def Context.after (c : Context) (s : Solution) : Context :=
  { c with scope := s.scope, chosen := s.chosen }

/-- What a condition comes to. -/
structure Outcome where
  /-- The local variables after it. -/
  scope : Scope
  /-- The value shown for it. -/
  value : Option Value
  holds : Bool

/-- How far a pattern fits a value. -/
structure Fit where
  /-- The local variables. -/
  scope : Scope
  /-- The parts of the pattern that were of the kind of a value. -/
  fitted : List (List Nat) := []
  /-- Whether it fits. -/
  holds : Bool := true

/-! ### Operations on values -/

/-- Whether a value is there and is not false. -/
def isTrue (v : Option Value) : Bool := v.any Value.truthy

/-- Whether two values are equal, or both undefined. -/
def sameOption : Option Value → Option Value → Bool
  | none, none => true
  | some v, some w => v.same w
  | _, _ => false

/-- The number of a value, or the fault of an operand of the wrong kind. -/
def Context.numberOf (c : Context) : Value → Except Fault Decimal
  | .number d => .ok d
  | _ => .error (c.fault .operandKind)

/-- The value of an operation on numbers, or on sets for a difference. -/
def Context.arithmetic (c : Context) (op : Arithmetic) (a b : Value) : Except Fault Value :=
  match op, a, b with
  | .sub, .set xs, .set ys => .ok (.set (xs.filter fun x => !ys.any (Value.same x)))
  | op, a, b => do
    let x ← c.numberOf a
    let y ← c.numberOf b
    match op with
    | .add => return .number (x.add y)
    | .sub => return .number (x.sub y)
    | .mul => return .number (x.mul y)
    | .div => if y.isZero then throw (c.fault .divisionByZero) else return .number (x.div y)
    | .rem =>
      if y.isZero then throw (c.fault .divisionByZero)
      else
        match x.rem? y with
        | some z => return .number z
        | none => throw (c.fault .fractionalRemainder)

/-- Whether a comparison holds of two values. -/
def Comparison.holds (op : Comparison) (a b : Value) : Bool :=
  match op, Value.compare a b with
  | .eq, o => o == .eq
  | .ne, o => o != .eq
  | .lt, o => o == .lt
  | .le, o => o != .gt
  | .gt, o => o == .gt
  | .ge, o => o != .lt

/-- The union or the intersection of two sets. -/
def Context.setOperation (c : Context) (intersect : Bool) (a b : Value) : Except Fault Value :=
  match a, b with
  | .set xs, .set ys =>
    .ok (if intersect then .set (xs.filter fun x => ys.any (Value.same x))
      else Value.setOf (xs ++ ys))
  | _, _ => .error (c.fault .operandKind)

/-- The part of a document at a path; a number that is no key there stands for its text. -/
def documentPart? (v : Value) : List Value → Option Value
  | [] => some v
  | k :: ks =>
    let direct := v.get? k
    let part := match direct, k with
      | none, .number d => v.get? (.string d.render)
      | x, _ => x
    part.bind fun x => documentPart? x ks

/-- The names at the front of a path: texts, and numbers by their texts. -/
def pathNames : List Value → List String
  | .string s :: r => s :: pathNames r
  | .number d :: r => d.render :: pathNames r
  | _ => []

/-- A path of names as keys. -/
def keysOf (path : List String) : List Value := path.map Value.string

/-! ### Forms of terms -/

/-- Whether a reference starts at the root of all documents. -/
def isDataRooted : Term → Bool
  | .var x => x == "data"
  | .dot b _ | .index _ b _ => isDataRooted b
  | _ => false

/-- Whether a term is a name. -/
def isName : Term → Bool
  | .var _ => true
  | _ => false

/-- Whether a term is a pattern for several values. -/
def isPattern : Term → Bool
  | .array _ | .object _ => true
  | _ => false

/-- Whether a term is a selection that stands for a part. -/
def Context.isChosen (c : Context) : Term → Bool
  | .index place _ _ => (c.chosen.lookup place).isSome
  | _ => false

/-- The value of a key that is a variable with one. -/
def Context.keyValue? (c : Context) : Term → Option Value
  | .var x => c.scope.value? x
  | _ => none

/-! ### Documents -/

/-- Puts a value at a place in the documents. -/
def Context.put (c : Context) (path : List Value) (v : Value) : Run Unit := do
  match Value.placeUnder v path (some (← get).documents) with
  | .ok w => modify fun s => { s with documents := w }
  | .error .conflict => throw (c.fault .conflict)
  | .error .noObject => throw (c.fault .noObject)

/-- Makes a document unless there is one. -/
def Context.makeDocument (c : Context) (place : List String) (v : Value) : Run Unit := do
  if ((← get).documents.getPath? (keysOf place)).isNone then c.put (keysOf place) v

/-- Makes an entry of a document unless there is one, or the document is no object. -/
def Context.makeEntry (c : Context) (place : List String) (key v : Value) : Run Unit := do
  match (← get).documents.getPath? (keysOf place) with
  | none => c.put (keysOf place ++ [key]) v
  | some (.object es) => if (Value.lookup key es).isNone then c.put (keysOf place ++ [key]) v
  | some _ => pure ()

/-- Joins what a rule contributes with the document at a place; what the base document holds there
stays as it is. -/
def Context.contribute (c : Context) (path : List Value) (v : Value) : Run Unit := do
  if (c.program.data.getPath? path).isNone then c.put path v

/-- Whether what stands at one place and what stands at another cannot both be given: the places are
one inside of the other, or they are the same and the values differ. -/
def conflicts (path : List Value) (v : Value) (other : List Value × Value) : Bool :=
  let agree := (path.zip other.1).all fun e => e.1.same e.2
  agree && (path.length != other.1.length || !other.2.same v)

/-- Gives the document at a place the value of a rule, which every rule for that place has to agree
on, and which no rule gives apart. -/
def Context.giveValue (c : Context) (path : List Value) (v : Value) : Run Unit := do
  if (← get).given.any (conflicts path v) then throw (c.fault .conflict)
  modify fun s => { s with given := (path, v) :: s.given }
  c.contribute path v

end PolicyPack.Policy
