import PolicyPack.Policy.Grammar.Term

/-!
# Reading queries

A query is a list of conditions, each on lines of its own or between semicolons; one that begins
with a quoted text has to follow a semicolon. The text of each is kept as it is written, for a lone
quoted text what stands between its quotes.
-/

namespace PolicyPack.Policy

open Parse

/-- Reads the conditions of a query, with their texts cut out of `cs`, up to the end of the text. -/
def parseQueryItems (fuel : Nat) (cs : List Char) : Parse (List QueryItem) := do
  match fuel with
  | 0 => refuse
  | fuel + 1 =>
    let start := (← peek).start
    let c ← parseCondition fuel
    let stop := (← get).stop
    let item : QueryItem := ⟨c, String.ofList ((cs.drop start).take (stop - start))⟩
    let t ← peek
    if t.kind == .finish then return [item]
    else if ← accept ";" then
      let more ← parseQueryItems fuel cs
      return item :: more
    else if (← get).line < t.line && !t.kind.isQuoted then
      let more ← parseQueryItems fuel cs
      return item :: more
    else refuse

/-- Reads a query. -/
def parseQuery (text : String) : Except Cause (List QueryItem) := do
  let ts ← tokens text
  return (← (parseQueryItems (parseFuel ts) text.toList).run { rest := ts }).1

end PolicyPack.Policy
