import PolicyPack.Evaluation.Result
import PolicyPack.Failure
import PolicyPack.Json.Kind
import PolicyPack.Policy.Query

/-!
# Prepared queries

A prepared query holds a query with the program it runs against, ready for any number of inputs. An
evaluation reads an input, runs the query, and keeps the answers in which every expression is
defined. The forms of evaluation differ in what they make of those answers.
-/

namespace PolicyPack

/-- A query that is ready to be evaluated. -/
structure PreparedQuery where
  /-- The text of the query as it was given. -/
  text : String
  query : Policy.Query
  /-- What the query runs against. -/
  program : Policy.Program

/-- Whether every expression of an answer is defined. -/
def Policy.Answer.isDefined (a : Policy.Answer) : Bool := a.expressions.all fun e => e.value.isSome

/-- The data value of an expression; an undefined one has none to write. -/
def Policy.Expression.toData? (e : Policy.Expression) : Option ExpressionValue := do
  return ⟨← (← e.value).toData?, e.text⟩

/-- The data values of bindings. -/
def bindingsToData? (bindings : Dictionary Policy.Value) : Option (Dictionary Json.Value) :=
  bindings.mapM fun e => return (e.1, ← e.2.toData?)

/-- The result of an answer, or the failure to write a number in it. -/
def ResultEntry.ofAnswer (a : Policy.Answer) : Except Failure ResultEntry :=
  match a.expressions.mapM Policy.Expression.toData?, bindingsToData? a.bindings with
  | some expressions, some bindings => .ok ⟨expressions, bindings⟩
  | _, _ => .error (.evaluation .hugeNumber)

namespace PreparedQuery

/-- The answers for an input, given as text. -/
def run (q : PreparedQuery) (input : String) : Except Failure (List Policy.Answer) :=
  match Policy.Value.ofText input with
  | .error f => .error (.parse (.text f))
  | .ok v =>
    match q.query.answers q.program (some v) with
    | .ok answers => .ok answers
    | .error f => .error (.evaluation (.engine f))

/-- The truth value of the first expression of an answer; any other value is no decision. -/
def decisionOf (a : Policy.Answer) : Bool :=
  match a.expressions.head?.bind Policy.Expression.value with
  | some (.bool b) => b
  | _ => false

/-- The decision for an input: that of the first defined answer, and false if there is none. -/
def decide (q : PreparedQuery) (input : String) : Except Failure Bool := do
  return (((← q.run input).find? Policy.Answer.isDefined).map decisionOf).getD false

/-- The results for an input. -/
def evaluate (q : PreparedQuery) (input : String) : Except Failure (List ResultEntry) := do
  ((← q.run input).filter Policy.Answer.isDefined).mapM ResultEntry.ofAnswer

/-- The text of the results for an input. -/
def evaluateToText (q : PreparedQuery) (input : String) : Except Failure String := do
  return renderResults (← q.evaluate input)

/-- The value of the first expression of the first result for an input, converted to the kind that
is asked for. -/
def evaluateAs {α : Type} (q : PreparedQuery) (kind : Json.Conversion α) (input : Json.Value) :
    Except Failure α := do
  let entries ← q.evaluate input.render
  match entries.head?.bind fun e => e.expressions.head? with
  | none => throw (.evaluation .undefined)
  | some e =>
    match kind e.value with
    | .ok x => return x
    | .error f => throw (.evaluation (.shape f))

/-- The description of a prepared query. -/
def describe (q : PreparedQuery) : String :=
  "PreparedQuery \x7b query: " ++ Text.quoted q.text ++ ", .. \x7d"

end PreparedQuery

end PolicyPack
