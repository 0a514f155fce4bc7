import PolicyPack.Policy.Term

/-!
# Names

The variables that occur in terms and conditions. A comprehension and the body of an `every` keep
the variables that they declare to themselves.
-/

namespace PolicyPack.Policy

/-- The names but for some. -/
def namesBut (declared names : List String) : List String := names.filter fun x => x ∉ declared

/-- The variables that a condition declares as new. -/
def Condition.declared : Condition → List String
  | .holds (.equation true l _) => l.patternVariables
  | .declare names => names
  | .someIn none v _ => v.patternVariables
  | .someIn (some k) v _ => k.patternVariables ++ v.patternVariables
  | _ => []

mutual

/-- The variables in a term. -/
def Term.names : Term → List String
  | .literal _ | .wildcard => []
  | .var x => [x]
  | .array items | .set items => Term.allNames items
  | .object entries => Term.entryNames entries
  | .dot b _ => b.names
  | .index _ b k => b.names ++ k.names
  | .call _ arguments => Term.allNames arguments
  | .negative t => t.names
  | .arithmetic _ a b | .comparison _ a b | .union a b | .intersection a b => a.names ++ b.names
  | .member none v c => v.names ++ c.names
  | .member (some k) v c => k.names ++ v.names ++ c.names
  | .arrayOf t body | .setOf t body =>
    namesBut (body.flatMap Condition.declared) (t.names ++ Condition.allNames body)
  | .objectOf k t body =>
    namesBut (body.flatMap Condition.declared) (k.names ++ t.names ++ Condition.allNames body)

/-- The variables in terms. -/
def Term.allNames : List Term → List String
  | [] => []
  | t :: r => t.names ++ Term.allNames r

/-- The variables in entries. -/
def Term.entryNames : List (Term × Term) → List String
  | [] => []
  | (k, t) :: r => k.names ++ t.names ++ Term.entryNames r

/-- The variables in a claim. -/
def Claim.names : Claim → List String
  | .term t => t.names
  | .equation _ l r => l.names ++ r.names

/-- The variables in a condition. -/
def Condition.names : Condition → List String
  | .holds c | .fails c => c.names
  | .declare _ => []
  | .someIn none v c => v.names ++ c.names
  | .someIn (some k) v c => k.names ++ v.names ++ c.names
  | .every none v c body =>
    c.names ++ namesBut (v :: body.flatMap Condition.declared) (Condition.allNames body)
  | .every (some k) v c body =>
    c.names ++ namesBut (k :: v :: body.flatMap Condition.declared) (Condition.allNames body)

/-- The variables in conditions. -/
def Condition.allNames : List Condition → List String
  | [] => []
  | c :: r => c.names ++ Condition.allNames r

end

mutual

/-- Whether a variable without a name is a part of a pattern. -/
def Term.hasWildcard : Term → Bool
  | .wildcard => true
  | .array items => Term.anyHasWildcard items
  | .object entries => Term.entryHasWildcard entries
  | _ => false

/-- Whether a variable without a name is a part of some item of a pattern. -/
def Term.anyHasWildcard : List Term → Bool
  | [] => false
  | t :: r => t.hasWildcard || Term.anyHasWildcard r

/-- Whether a variable without a name is a part of the value of some entry of a pattern. -/
def Term.entryHasWildcard : List (Term × Term) → Bool
  | [] => false
  | (_, t) :: r => t.hasWildcard || Term.entryHasWildcard r

end

end PolicyPack.Policy
