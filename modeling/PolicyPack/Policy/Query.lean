import PolicyPack.Policy.Evaluate
import PolicyPack.Policy.Grammar.Query
import PolicyPack.Policy.Safety

/-!
# Queries

A query is a list of conditions. Each of its answers is a way in which all of them hold, with the
value of each and the values of the variables of the innermost level. A first condition that has
only one way to hold, and fails, is an answer of its own, so that a decision which is false or
undefined can be told from no decision.
-/

namespace PolicyPack.Policy

/-- A query: its conditions with their texts. -/
structure Query where
  /-- The conditions in their order. -/
  items : List QueryItem
  /-- The length of the text, which bounds how deeply its terms nest. -/
  extent : Nat

/-- The value of one condition of an answer. -/
structure Expression where
  /-- The value, if it is defined. -/
  value : Option Value
  /-- The text of the condition. -/
  text : String

/-- An answer to a query. -/
structure Answer where
  /-- The conditions with their values. -/
  expressions : List Expression
  /-- The values of the named variables, sorted by name. -/
  bindings : Dictionary Value

namespace Query

/-- The name that diagnostics give the text of a query. -/
def sourceName : String := "<query.rego>"

/-- Reads the text of a query. -/
def ofText (text : String) : Except Fault Query :=
  match parseQuery text with
  | .ok items => .ok ⟨items, text.length⟩
  | .error cause => .error (.diagnostic sourceName cause)

/-- Where a query is evaluated. -/
def context (p : Program) (input : Option Value) : Context where
  program := p
  input := input
  source := sourceName

/-- How many steps down the evaluation of a query can take. -/
def fuel (q : Query) (p : Program) : Nat := p.depth + 16 * q.extent + 64

/-- Whether a query is safe: it knows no names but those of the root documents. -/
def check (q : Query) (p : Program) : Except Fault Unit :=
  let s : Surroundings := ⟨fun x => x == "data" || x == "input", (context p none).arity?⟩
  match bodyFlaw? s [] (q.items.map QueryItem.condition) with
  | some cause => .error (.diagnostic sourceName cause)
  | none => .ok ()

/-- Whether a condition has only one way to hold. -/
def isSingle (c : Context) : Condition → Bool
  | .someIn _ _ _ => false
  | .fails _ => true
  | condition => (c.loops condition.selections).isEmpty

/-- The conditions of a query in the order of their evaluation, each with its position. -/
def ordered (q : Query) (c : Context) : List (Nat × Condition) :=
  (bodyOrder c.surroundings (q.items.map QueryItem.condition)).filterMap fun i =>
    q.items[i]?.map fun item => (i, item.condition)

/-- The answer with the values shown for the conditions at some positions, in the order of the
text. -/
def answer (q : Query) (positions : List Nat) (shown : List (Option Value))
    (bindings : Dictionary Value) : Answer where
  expressions := q.items.zipIdx.filterMap fun item =>
    ((positions.zip shown).lookup item.2).map fun v => ⟨v, item.1.text⟩
  bindings := bindings

/-- The answers, for each solution one. -/
def solutions (q : Query) (fuel : Nat) (c : Context) (order : List (Nat × Condition)) :
    Run (List Answer) := do
  let answers (found : List Solution) : List Answer :=
    found.map fun s => q.answer (order.map Prod.fst) s.shown s.scope.bindings
  match order with
  | [] => return []
  | (i, first) :: rest =>
    if isSingle c first then
      let o ← evalCondition fuel c first
      if o.holds then
        let found ← solve fuel { c with scope := o.scope } (rest.map Prod.snd)
        return answers (found.map fun s => { s with shown := o.value :: s.shown })
      else return [q.answer [i] [o.value] []]
    else return answers (← solve fuel c (order.map Prod.snd))

/-- Whether a query asks for all documents and for nothing else. -/
def asksForAll (q : Query) : Bool :=
  match q.items with
  | [⟨.holds (.term (.var x)), text⟩] => x == "data" && text == "data"
  | _ => false

/-- The answers to a query. -/
def answers (q : Query) (p : Program) (input : Option Value) : Except Fault (List Answer) := do
  let c := context p input
  let steps : Run (List Answer) := do
    if q.asksForAll then completeAll (q.fuel p) c
    q.solutions (q.fuel p) c (q.ordered c)
  return (← steps.run { documents := p.data }).1

end Query

end PolicyPack.Policy
