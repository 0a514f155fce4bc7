import PolicyPack.Policy.Context

/-!
# Safety of bodies

A body is looked at before anything is evaluated. Each variable that its conditions use has to be
introduced: by a condition or a result of the body itself, by what stands around it, or as the name
of a rule or of a renamed import. A variable that is declared is not used in a condition before, and
sequences on both sides of an equation are of one length.
-/

namespace PolicyPack.Policy

/-! ### What introduces variables -/

/-- The variables in the keys of selections. -/
def keyVariables (l : List Selection) : List String := l.flatMap fun e => e.key.patternVariables

/-- The variables that a term introduces: those of a pattern, and those of keys. -/
def Term.introduced (t : Term) : List String := t.patternVariables ++ keyVariables t.selections

/-- The variables that a claim introduces; a call can introduce those of its result. -/
def Claim.introduced (s : Surroundings) : Claim → List String
  | .term t => t.introduced ++ ((s.result? t).map Term.patternVariables).getD []
  | .equation _ l r => l.introduced ++ r.introduced

/-- The variables that a condition introduces. -/
def Condition.introduced (s : Surroundings) : Condition → List String
  | .holds c | .fails c => c.introduced s
  | .declare names => names
  | .someIn none v c => v.introduced ++ keyVariables c.selections
  | .someIn (some k) v c => k.introduced ++ v.introduced ++ keyVariables c.selections
  | .every _ _ c _ => keyVariables c.selections

/-- The surroundings where more variables are known. -/
def Surroundings.knowing (s : Surroundings) (names : List String) : Surroundings :=
  { s with isKnown := fun x => s.isKnown x || names.contains x }

/-- The surroundings inside of a body with the terms that make up its results. -/
def Surroundings.inBody (s : Surroundings) (results : List Term) (body : List Condition) :
    Surroundings :=
  s.knowing (results.flatMap Term.introduced ++ body.flatMap (Condition.introduced s))

/-! ### The order of use -/

/-- The variables that a condition uses other than by introducing them as new. -/
def Condition.used : Condition → List String
  | .holds (.equation true _ r) => r.names
  | .someIn _ _ c => c.names
  | c => c.names

/-- The variables that a condition declares for the conditions after it. -/
def Condition.fixed : Condition → List String
  | .holds (.equation true l _) => l.patternVariables
  | .declare names => names
  | _ => []

/-- The flaw of conditions, after others that `used` variables, that declare one of these. -/
def earlyUse? (used : List String) : List Condition → Option Cause
  | [] => none
  | c :: r => ((c.fixed.find? used.contains).map Cause.usedEarly).or (earlyUse? (used ++ c.used) r)

/-! ### Forms of equations -/

mutual

/-- Whether sequences on both sides of an equation are of one length, also inside of each other. -/
def Term.fits : Term → Term → Bool
  | .array ls, .array rs => Term.allFit ls rs
  | _, _ => true

/-- Whether items are as many as others and fit them. -/
def Term.allFit : List Term → List Term → Bool
  | [], [] => true
  | l :: ls, r :: rs => l.fits r && Term.allFit ls rs
  | _, _ => false

end

/-! ### Flaws -/

mutual

/-- The flaw of a term: a variable that nothing introduces, or a flaw of a body in it. What is a
`result` may be left without a value, so only its bodies are looked at. -/
def Term.flaw? (s : Surroundings) (result : Bool) : Term → Option Cause
  | .literal _ | .wildcard => none
  | .var x => if result || s.isKnown x then none else some (.unboundVariable x)
  | .array items | .set items => Term.allFlaw? s result items
  | .object entries => Term.entryFlaw? s result entries
  | .dot b _ => b.flaw? s result
  | .index _ b k => (b.flaw? s result).or (k.flaw? s result)
  | .call _ arguments => Term.allFlaw? s result arguments
  | .negative t => t.flaw? s result
  | .arithmetic _ a b | .comparison _ a b | .union a b | .intersection a b =>
    (a.flaw? s result).or (b.flaw? s result)
  | .member none v c => (v.flaw? s result).or (c.flaw? s result)
  | .member (some k) v c => ((k.flaw? s result).or (v.flaw? s result)).or (c.flaw? s result)
  | .arrayOf t body | .setOf t body =>
    let s := s.inBody [t] body
    ((t.flaw? s true).or (earlyUse? [] body)).or (Condition.allFlaw? s body)
  | .objectOf k t body =>
    let s := s.inBody [k, t] body
    (((k.flaw? s true).or (t.flaw? s true)).or (earlyUse? [] body)).or (Condition.allFlaw? s body)

/-- The flaw of terms. -/
def Term.allFlaw? (s : Surroundings) (result : Bool) : List Term → Option Cause
  | [] => none
  | t :: r => (t.flaw? s result).or (Term.allFlaw? s result r)

/-- The flaw of entries. -/
def Term.entryFlaw? (s : Surroundings) (result : Bool) : List (Term × Term) → Option Cause
  | [] => none
  | (k, t) :: r => ((k.flaw? s result).or (t.flaw? s result)).or (Term.entryFlaw? s result r)

/-- The flaw of a claim. -/
def Claim.flaw? (s : Surroundings) : Claim → Option Cause
  | .term t => t.flaw? s false
  | .equation _ l r =>
    if l.fits r then (l.flaw? s false).or (r.flaw? s false) else some .patternLength

/-- The flaw of a condition. -/
def Condition.flaw? (s : Surroundings) : Condition → Option Cause
  | .holds c | .fails c => c.flaw? s
  | .declare _ => none
  | .someIn _ _ c => c.flaw? s false
  | .every key v c body =>
    let inner := (s.knowing (key.toList ++ [v])).inBody [] body
    ((c.flaw? s false).or (earlyUse? [] body)).or (Condition.allFlaw? inner body)

/-- The flaw of conditions. -/
def Condition.allFlaw? (s : Surroundings) : List Condition → Option Cause
  | [] => none
  | c :: r => (c.flaw? s).or (Condition.allFlaw? s r)

end

/-- The flaw of a body with the terms that make up its results. -/
def bodyFlaw? (s : Surroundings) (results : List Term) (body : List Condition) : Option Cause :=
  let s := s.inBody results body
  ((Term.allFlaw? s true results).or (earlyUse? [] body)).or (Condition.allFlaw? s body)

/-! ### Programs -/

/-- The terms that make up the results of a rule in every clause. -/
def Rule.headTerms (r : Rule) : List Term :=
  r.keys.map HeadKey.term ++
    match r.kind with
    | .member (some e) => [e]
    | _ => []

/-- The parameters of a rule. -/
def Rule.parameters (r : Rule) : List Term :=
  match r.kind with
  | .function ps => ps
  | _ => []

/-- The flaw of a rule. -/
def Rule.flaw? (s : Surroundings) (r : Rule) : Option Cause :=
  let s := s.knowing (Term.allNames r.parameters)
  r.clauses.findSome? fun c => bodyFlaw? s (r.headTerms ++ c.value.toList) c.body

namespace Program

/-- Whether a name is known in a package: as that of a root document, of a rule or of a renamed
import. -/
def knowsName (p : Program) (package : List String) (x : String) : Bool :=
  x == "data" || x == "input" || p.hasRule (package ++ [x]) ||
    p.modules.any fun m => m.package == package && m.imports.any fun i => i.renamed && i.name == x

/-- What the bodies of a module find. -/
def surroundings (p : Program) (m : Module) : Surroundings where
  isKnown := p.knowsName m.package
  arity? := ({ program := p, input := none, source := m.source, home := some m } : Context).arity?

/-- The fault of a body that is not safe, in a rule or in the value of a default. -/
def flawFault? (p : Program) : Option Fault :=
  p.modules.findSome? fun m =>
    let s := p.surroundings m
    ((m.rules.findSome? (Rule.flaw? s)).or
      (m.defaults.findSome? fun d => d.value.flaw? s true)).map (.diagnostic m.source)

/-- Whether the modules go together and are safe. -/
def check (p : Program) : Except Fault Unit :=
  match (p.parameterFault?.or p.flawFault?).or p.importFault? with
  | some f => .error f
  | none => .ok ()

end Program

end PolicyPack.Policy
