import PolicyPack.Policy.Value

/-!
# Terms, rules and modules

The abstract form of policy text. A module is a package with rules; a rule gives a document one
value, adds members to it, adds entries to it, or defines a function. A default stands in where the
rules give no value.
-/

namespace PolicyPack.Policy

/-- The operations on numbers, the difference of sets among them. -/
inductive Arithmetic where
  /-- Sum. -/
  | add
  /-- Difference. -/
  | sub
  /-- Product. -/
  | mul
  /-- Quotient. -/
  | div
  /-- Remainder. -/
  | rem
deriving DecidableEq, Repr

/-- The comparisons of values. -/
inductive Comparison where
  /-- Equal. -/
  | eq
  /-- Not equal. -/
  | ne
  /-- Before. -/
  | lt
  /-- Before or equal. -/
  | le
  /-- After. -/
  | gt
  /-- After or equal. -/
  | ge
deriving DecidableEq, Repr

mutual

/-- A term: what has a value. -/
inductive Term where
  /-- A value written out. -/
  | literal (v : Value)
  /-- A variable. -/
  | var (name : String)
  /-- A variable without a name, different from all others. -/
  | wildcard
  | array (items : List Term)
  | set (members : List Term)
  /-- Terms under keys. -/
  | object (entries : List (Term × Term))
  /-- The part of a value under a name. -/
  | dot (base : Term) (field : String)
  /-- The part of a value under a key; the place of the bracket in its text tells it from all other
  selections there. -/
  | index (place : Nat) (base key : Term)
  | call (function : Term) (arguments : List Term)
  /-- The negative of a number. -/
  | negative (t : Term)
  /-- An operation on numbers. -/
  | arithmetic (op : Arithmetic) (a b : Term)
  | comparison (op : Comparison) (a b : Term)
  /-- The union of sets. -/
  | union (a b : Term)
  /-- The intersection of sets. -/
  | intersection (a b : Term)
  /-- Whether a value, perhaps under a key, is part of a collection. -/
  | member (key : Option Term) (value collection : Term)
  /-- The sequence of the values of a term where a body holds. -/
  | arrayOf (t : Term) (body : List Condition)
  /-- The set of the values of a term where a body holds. -/
  | setOf (t : Term) (body : List Condition)
  /-- The object of the entries where a body holds. -/
  | objectOf (key value : Term) (body : List Condition)

/-- What a condition claims. -/
inductive Claim where
  /-- A term is neither false nor undefined. -/
  | term (t : Term)
  /-- Two sides agree; a declaration gives the variables on its left their values. -/
  | equation (declares : Bool) (left right : Term)

/-- A condition of a body or a query. -/
inductive Condition where
  | holds (c : Claim)
  /-- A claim that does not hold. -/
  | fails (c : Claim)
  /-- Variables that are new. -/
  | declare (names : List String)
  /-- Some element of a collection, perhaps with its key. -/
  | someIn (key : Option Term) (value collection : Term)
  /-- A body that holds for every element of a collection. -/
  | every (key : Option String) (value : String) (collection : Term) (body : List Condition)

end

instance : Inhabited Term := ⟨.wildcard⟩

instance : Inhabited Condition := ⟨.declare []⟩

mutual

/-- Whether the form of a term shows that it has a value, as that of a default must. -/
def Term.isClosed : Term → Bool
  | .literal _ | .arrayOf _ _ | .setOf _ _ | .objectOf _ _ _ => true
  | .negative (.literal (.number _)) => true
  | .array items | .set items => Term.allClosed items
  | .object entries => Term.allEntriesClosed entries
  | _ => false

/-- Whether all of the terms are closed. -/
def Term.allClosed : List Term → Bool
  | [] => true
  | t :: ts => t.isClosed && Term.allClosed ts

/-- Whether the keys and the values of all of the entries are closed. -/
def Term.allEntriesClosed : List (Term × Term) → Bool
  | [] => true
  | (k, v) :: es => k.isClosed && v.isClosed && Term.allEntriesClosed es

end

/-- Whether a term is an operation on others. -/
def Term.isOperation : Term → Bool
  | .negative _ | .arithmetic _ _ _ | .comparison _ _ _ | .union _ _ | .intersection _ _ => true
  | .member _ _ _ => true
  | _ => false

/-- Whether a term is a value written out. -/
def Term.isLiteral : Term → Bool
  | .literal _ => true
  | _ => false

/-- The name of a callable term, its parts from the first on. -/
def Term.calleePath : Term → List String
  | .var x => [x]
  | .dot b f => b.calleePath ++ [f]
  | _ => []

mutual

/-- The variables that a pattern gives a value. -/
def Term.patternVariables : Term → List String
  | .var x => [x]
  | .array items => Term.allPatternVariables items
  | .object entries => Term.entryPatternVariables entries
  | _ => []

/-- The variables of the items of a pattern. -/
def Term.allPatternVariables : List Term → List String
  | [] => []
  | t :: r => t.patternVariables ++ Term.allPatternVariables r

/-- The variables of the values of the entries of a pattern. -/
def Term.entryPatternVariables : List (Term × Term) → List String
  | [] => []
  | (_, t) :: r => t.patternVariables ++ Term.entryPatternVariables r

end

/-! ### Selections -/

/-- A selection by a key in brackets. -/
structure Selection where
  /-- The place of the bracket. -/
  place : Nat
  /-- What is selected from. -/
  base : Term
  key : Term
deriving Inhabited

mutual

/-- The selections in a term outside of its comprehensions, an inner one before the one around
it. -/
def Term.selections : Term → List Selection
  | .literal _ | .var _ | .wildcard | .arrayOf _ _ | .setOf _ _ | .objectOf _ _ _ => []
  | .array items | .set items => Term.allSelections items
  | .object entries => Term.entrySelections entries
  | .dot b _ => b.selections
  | .index p b k => b.selections ++ k.selections ++ [⟨p, b, k⟩]
  | .call _ arguments => Term.allSelections arguments
  | .negative t => t.selections
  | .arithmetic _ a b | .comparison _ a b | .union a b | .intersection a b =>
    a.selections ++ b.selections
  | .member none v c => v.selections ++ c.selections
  | .member (some k) v c => k.selections ++ v.selections ++ c.selections

/-- The selections in terms. -/
def Term.allSelections : List Term → List Selection
  | [] => []
  | t :: r => t.selections ++ Term.allSelections r

/-- The selections in entries. -/
def Term.entrySelections : List (Term × Term) → List Selection
  | [] => []
  | (k, t) :: r => k.selections ++ t.selections ++ Term.entrySelections r

end

/-- The selections in a claim. -/
def Claim.selections : Claim → List Selection
  | .term t => t.selections
  | .equation _ l r => l.selections ++ r.selections

/-- The selections in a condition that take place outside of its bodies. -/
def Condition.selections : Condition → List Selection
  | .holds c | .fails c => c.selections
  | .declare _ => []
  | .someIn none v c => v.selections ++ c.selections
  | .someIn (some k) v c => k.selections ++ v.selections ++ c.selections
  | .every _ _ c _ => c.selections

/-! ### Rules and modules -/

/-- One way for a rule to get its value: a term, and the body that must hold for it. -/
structure Clause where
  /-- The value, true if none is written. -/
  value : Option Term
  body : List Condition
deriving Inhabited

/-- A key after the name of a rule. -/
inductive HeadKey where
  /-- A name after a point. -/
  | field (name : String)
  /-- A text in brackets: its value, and as it is written. -/
  | text (s written : String)
  /-- Any other term in brackets. -/
  | bracket (t : Term)

/-- The key as a term. -/
def HeadKey.term : HeadKey → Term
  | .field f => .literal (.string f)
  | .text s _ => .literal (.string s)
  | .bracket t => t

/-- The name that the key is in any case, if it is one. -/
def HeadKey.name? : HeadKey → Option String
  | .field f => some f
  | .text _ w => some w
  | .bracket _ => none

/-- Whether the key stands in brackets. -/
def HeadKey.isBracket : HeadKey → Bool
  | .field _ => false
  | _ => true

/-- What a rule contributes to its document. -/
inductive RuleKind where
  /-- The value of the document, or of the entry under the keys. -/
  | value
  /-- A member of the document, which is a set: the given term, or else the last of the keys. -/
  | member (element : Option Term)
  /-- The value of a function for arguments that fit the parameters. -/
  | function (parameters : List Term)

/-- A rule. -/
structure Rule where
  /-- The name of the document. -/
  name : String
  /-- The keys of the entry that the rule gives, from the outside in. -/
  keys : List HeadKey
  /-- What the rule contributes. -/
  kind : RuleKind
  /-- The clauses, each standing in only when those before it give no value. -/
  clauses : List Clause

/-- What holds where the rules give no value. -/
structure Default where
  /-- The name of the document. -/
  name : String
  /-- The keys of the entry. -/
  keys : List HeadKey
  /-- The parameters, if it stands in for a function. -/
  parameters : Option (List Term)
  value : Term

/-- A document that is known by a name in a package. -/
structure Import where
  name : String
  /-- The parts of the path to the document. -/
  path : List String
  /-- Whether the name was chosen for it. -/
  renamed : Bool

/-- A module: the rules of a package. -/
structure Module where
  /-- The name that diagnostics give the module. -/
  source : String
  /-- The parts of the package name. -/
  package : List String
  /-- The imported documents. -/
  imports : List Import
  rules : List Rule
  defaults : List Default
  /-- The length of the text, which bounds how deeply its terms nest. -/
  extent : Nat
  /-- The number of modules before it in its program. -/
  place : Nat := 0

/-- The package name with points between its parts. -/
def Module.packageName (m : Module) : String := ".".intercalate m.package

/-- A condition of a query with its text. -/
structure QueryItem where
  condition : Condition
  /-- The text of the condition. -/
  text : String

end PolicyPack.Policy
