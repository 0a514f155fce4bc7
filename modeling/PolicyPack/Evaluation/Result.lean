import PolicyPack.Json.Printer
import PolicyPack.Json.Typed

/-!
# Results

A result of a query lists its expressions with their values and texts, and the values of the
variables it binds. The bindings are not written when there are none.
-/

namespace PolicyPack

/-- The value of an expression of a query. -/
structure ExpressionValue where
  value : Json.Value
  /-- The text of the expression. -/
  text : String

/-- One result of a query. -/
structure ResultEntry where
  /-- The expressions in the order of the query. -/
  expressions : List ExpressionValue
  /-- The values of the variables, sorted by name. -/
  bindings : Dictionary Json.Value := []

/-! ### Writing -/

/-- The text of an expression value. -/
def ExpressionValue.render (e : ExpressionValue) : String :=
  Json.objectOf [("value", e.value.render), ("text", Json.quote e.text)]

/-- The text of a result. -/
def ResultEntry.render (e : ResultEntry) : String :=
  Json.objectOf (
    ("expressions", Json.arrayOf (e.expressions.map ExpressionValue.render))
      :: (if e.bindings.isEmpty then [] else [("bindings", (Json.Value.object e.bindings).render)]))

/-- The text of a list of results. -/
def renderResults (es : List ResultEntry) : String := Json.arrayOf (es.map ResultEntry.render)

/-! ### Reading -/

/-- The parts of an expression value that have been read. -/
structure ExpressionDraft where
  value : Option Json.Value := none
  text : Option String := none

/-- How an expression value is read. -/
def ExpressionValue.record : Json.Record ExpressionDraft ExpressionValue where
  name := "ExpressionValue"
  blank := {}
  fields := [
    { name := "value"
      present := fun d => d.value.isSome
      mayLack := false
      read := fun levels d s => do
        let (x, s) ← Json.anyValue levels s
        return ({ d with value := some x }, s) },
    { name := "text"
      present := fun d => d.text.isSome
      mayLack := false
      read := fun _ d s => do
        let (x, s) ← Json.text s
        return ({ d with text := some x }, s) }]
  finish d := do return ⟨← d.value, ← d.text⟩

/-- The parts of a result that have been read. -/
structure ResultDraft where
  expressions : Option (List ExpressionValue) := none
  bindings : Option (Dictionary Json.Value) := none

/-- How a result is read; its bindings may be left out. -/
def ResultEntry.record : Json.Record ResultDraft ResultEntry where
  name := "ResultEntry"
  blank := {}
  fields := [
    { name := "expressions"
      present := fun d => d.expressions.isSome
      mayLack := false
      read := fun levels d s => do
        let (x, s) ← Json.listOf ExpressionValue.record.read levels s
        return ({ d with expressions := some x }, s) },
    { name := "bindings"
      present := fun d => d.bindings.isSome
      mayLack := true
      read := fun levels d s => do
        let (x, s) ← Json.mapOfValues levels s
        return ({ d with bindings := some x }, s) }]
  finish d := do return ⟨← d.expressions, d.bindings.getD []⟩

/-- Reads the text of a list of results. -/
def resultsOfText (text : String) : Except Json.Fault (List ResultEntry) :=
  Json.whole (Json.listOf ResultEntry.record.read Json.nestingLimit (Json.symbolsOfText text))

end PolicyPack
