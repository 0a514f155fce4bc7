import PolicyPack.Dictionary
import PolicyPack.Policy.Names

/-!
# The order of conditions

The conditions of a body are evaluated in an order in which each finds the variables it needs. Some
conditions give variables a value: an equation those of a side that is a pattern, a selection those
of its key, an iteration those of its element. A condition is ready when whatever else in the body
could give a variable that it needs has done so. Conditions that give no variable come as soon as
they are ready, the others variable by variable. A body that cannot be ordered keeps its order.
-/

namespace PolicyPack.Policy

/-- What the conditions of a body find when they are evaluated. -/
structure Surroundings where
  /-- Whether a variable has a value or is the name of a document. -/
  isKnown : String → Bool
  /-- The number of arguments of a function. -/
  arity? : List String → Option Nat

/-- A way for a condition to be of use: a variable that it gives a value, or none, and the variables
that it needs for it. -/
structure Supply where
  /-- The variable. -/
  gives : Option String
  /-- The variables needed. -/
  needs : List String

mutual

/-- The supplies of an equation; one that declares variables works from right to left only. -/
def Term.supplies (declares : Bool) : Term → Term → List Supply
  | .array ls, .array rs => Term.allSupplies declares ls rs
  | l, r =>
    let forth := l.patternVariables.map fun x =>
      ⟨some x, r.names ++ namesBut l.patternVariables l.names⟩
    let back := r.patternVariables.map fun y =>
      ⟨some y, l.names ++ namesBut r.patternVariables r.names⟩
    if declares then forth else forth ++ back

/-- The supplies of equations of items. -/
def Term.allSupplies (declares : Bool) : List Term → List Term → List Supply
  | l :: ls, r :: rs => l.supplies declares r ++ Term.allSupplies declares ls rs
  | _, _ => []

end

/-- The last argument of a call with one more than the function has parameters: it takes the
result. -/
def Surroundings.result? (s : Surroundings) : Term → Option Term
  | .call f arguments =>
    if s.arity? f.calleePath == some (arguments.length - 1) && !arguments.isEmpty then
      arguments.getLast?
    else none
  | _ => none

/-- The supplies of a condition apart from those of its selections. -/
def Condition.ownSupplies (s : Surroundings) : Condition → List Supply
  | .holds (.equation declares l r) =>
    (l.supplies declares r).filter fun o => declares || !o.gives.any s.isKnown
  | .holds (.term t) =>
    match s.result? t with
    | some (.var y) => if s.isKnown y then [] else [⟨some y, namesBut [y] t.names⟩]
    | _ => []
  | .someIn none v c => v.patternVariables.map fun x => ⟨some x, c.names⟩
  | .someIn (some k) v c =>
    (k.patternVariables ++ v.patternVariables).map fun x => ⟨some x, c.names⟩
  | _ => []

/-- The variables that the keys of a condition run over, where nothing else is sure to give them a
value. -/
def Condition.indices (s : Surroundings) (given : List String) (c : Condition) : List String :=
  (c.selections.flatMap fun e => e.key.patternVariables).filter fun x =>
    !s.isKnown x && !given.contains x

/-- The supplies of a condition, given the variables that some condition of the body declares. -/
def Condition.supplies (s : Surroundings) (given : List String) (c : Condition) : List Supply :=
  let indices := c.indices s given
  let own := (c.ownSupplies s).map fun o => ⟨o.gives, namesBut indices o.needs⟩
  let found := own ++ indices.map fun i =>
    ⟨some i, namesBut (indices ++ own.filterMap Supply.gives) c.names⟩
  if found.isEmpty then [⟨none, c.names⟩] else found

/-- How far conditions are ordered. -/
structure Sorting where
  /-- The variables that have been given a value. -/
  settled : List String := []
  /-- The positions of the conditions taken, the last one first. -/
  taken : List Nat := []

namespace Sorting

/-- Takes, one after the other, the conditions that are ready to give a variable a value. -/
def take (supplies : List (List Supply × Nat)) (x : Option String) (o : Sorting) : Sorting :=
  supplies.foldl (fun o c =>
    let ready := c.1.any fun p => p.gives == x && p.needs.all fun y => o.settled.contains y
    if ready && !o.taken.contains c.2 then
      ⟨c.1.filterMap Supply.gives ++ o.settled, c.2 :: o.taken⟩
    else o) o

/-- Takes the conditions for a variable, and then those that give none and have become ready. -/
def settle (supplies : List (List Supply × Nat)) (o : Sorting) (x : Option String) : Sorting :=
  let o' := o.take supplies x
  if o'.taken.length = o.taken.length then o' else o'.take supplies none

/-- Goes through the variables a number of times. -/
def run (supplies : List (List Supply × Nat)) (asked : List (Option String)) :
    Nat → Sorting → Sorting
  | 0, o => o
  | rounds + 1, o => run supplies asked rounds (asked.foldl (settle supplies) o)

end Sorting

/-- Of the variables that a condition needs, those that it waits for: the body of an `every` waits
only for what an `earlier` condition gives. -/
def Condition.awaited (earlier needs : List String) : Condition → List String
  | .every _ _ c _ => needs.filter fun y => c.names.contains y || earlier.contains y
  | _ => needs

/-- The variables in order, each once. -/
def sortedNames (names : List String) : List String :=
  (Dictionary.ofList (names.map fun x => (x, ()))).map Prod.fst

/-- The positions of the conditions of a body in the order of their evaluation. -/
def bodyOrder (s : Surroundings) (body : List Condition) : List Nat :=
  let given := body.flatMap fun c =>
    match c with
    | .declare _ => []
    | c => c.declared
  let all := body.map (Condition.supplies s given)
  let found := (body.zip all).zipIdx.map fun e =>
    let earlier := ((all.take e.2).flatMap fun l => l.filterMap Supply.gives)
    e.1.2.map fun o => (⟨o.gives, e.1.1.awaited earlier o.needs⟩ : Supply)
  let names := sortedNames (found.flatMap fun l => l.filterMap Supply.gives)
  -- what nothing in the body gives a value is not waited for
  let supplies := (found.map fun l => l.map fun o =>
    (⟨o.gives, o.needs.filter names.contains⟩ : Supply)).zipIdx
  let o := Sorting.run supplies (none :: names.map some) body.length {}
  if o.taken.length = body.length then o.taken.reverse else List.range body.length

/-- The conditions of a body in the order of their evaluation. -/
def orderBody (s : Surroundings) (body : List Condition) : List Condition :=
  (bodyOrder s body).filterMap fun i => body[i]?

end PolicyPack.Policy
