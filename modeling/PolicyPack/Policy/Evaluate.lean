import PolicyPack.Policy.Context

/-!
# Evaluation

A term has at most one value in a context; where the keys of selections run over collections, the
condition or the value around them is evaluated once for every choice of parts. A body has a
solution for each way in which all of its conditions hold. A reference to a document evaluates the
rules that contribute to it, unless that was done before.

Every function passes on less `fuel` than it gets. A rule is not evaluated again while it is being
evaluated, so only functions that call themselves without end use up what `Program.depth` provides.
-/

namespace PolicyPack.Policy

mutual

/-- The value of a term. -/
def evalTerm (fuel : Nat) (c : Context) (t : Term) : Run (Option Value) := do
  match fuel with
  | 0 => throw (c.fault .depth)
  | fuel + 1 =>
    match t with
    | .literal v => return some v
    | .var _ | .dot _ _ | .index _ _ _ => evalPath fuel c t []
    | .wildcard => throw (c.fault (.unboundVariable "_"))
    | .array items => return (← evalTerms fuel c items).map Value.array
    | .set members => return (← evalTerms fuel c members).map Value.setOf
    | .object entries => return (← evalEntries fuel c entries).map Value.objectOf
    | .call f arguments => evalCall fuel c f.calleePath arguments
    | .negative (.literal (.number d)) =>
      if d.coefficient < 0 then throw (c.fault .operandKind) else return some (.number d.neg)
    | .negative _ => throw (c.fault .operandKind)
    | .arithmetic op a b => evalPair fuel c a b (c.arithmetic op)
    | .comparison op a b => evalPair fuel c a b fun x y => .ok (.bool (op.holds x y))
    | .union a b => evalPair fuel c a b (c.setOperation false)
    | .intersection a b => evalPair fuel c a b (c.setOperation true)
    | .member key v coll => return some (.bool (← evalMember fuel c key v coll))
    | .arrayOf u body =>
      let found ← evalOutputs fuel c.nested [u] body
      return some (.array (found.flatten.filterMap fun vs => vs.bind List.head?))
    | .setOf u body =>
      let found ← evalOutputs fuel c.nested [u] body
      return some (Value.setOf (found.flatten.filterMap fun vs => vs.bind List.head?))
    | .objectOf k u body =>
      let found ← evalOutputs fuel c.nested [k, u] body
      let entries := found.flatten.filterMap fun vs =>
        match vs with
        | some [k, v] => some (k, v)
        | _ => none
      match Value.mergeEntries? [] entries with
      | some es => return some (.object es)
      | none => throw (c.fault .conflict)

/-- The values of terms; they are undefined, and no later one is evaluated, when one is. -/
def evalTerms (fuel : Nat) (c : Context) (ts : List Term) : Run (Option (List Value)) := do
  match fuel with
  | 0 => throw (c.fault .depth)
  | fuel + 1 =>
    match ts with
    | [] => return some []
    | t :: r =>
      match ← evalTerm fuel c t with
      | none => return none
      | some v => return (← evalTerms fuel c r).map fun vs => v :: vs

/-- The values of entries; they are undefined when a key or a value is. -/
def evalEntries (fuel : Nat) (c : Context) (es : List (Term × Term)) :
    Run (Option (List (Value × Value))) := do
  match fuel with
  | 0 => throw (c.fault .depth)
  | fuel + 1 =>
    match es with
    | [] => return some []
    | (k, t) :: r =>
      let k' ← evalTerm fuel c k
      let v ← evalTerm fuel c t
      match k', v with
      | some k', some v => return (← evalEntries fuel c r).map fun es' => (k', v) :: es'
      | _, _ => return none

/-- The value of an operation on two terms; it is undefined when one of them is. -/
def evalPair (fuel : Nat) (c : Context) (a b : Term) (f : Value → Value → Except Fault Value) :
    Run (Option Value) := do
  match fuel with
  | 0 => throw (c.fault .depth)
  | fuel + 1 =>
    let x ← evalTerm fuel c a
    let y ← evalTerm fuel c b
    match x, y with
    | some x, some y => return some (← f x y)
    | _, _ => return none

/-- Whether a value, perhaps under a key, is part of a collection. What is undefined is no part, but
an undefined value is what a collection has under a key that it has not. -/
def evalMember (fuel : Nat) (c : Context) (key : Option Term) (v coll : Term) : Run Bool := do
  match fuel with
  | 0 => throw (c.fault .depth)
  | fuel + 1 =>
    let x ← evalTerm fuel c v
    let whole ← evalTerm fuel c coll
    match key, whole with
    | none, some w => return w.pairs.any fun e => sameOption x (some e.2)
    | some _, some (.set _) => return false
    | some k, some (.array items) =>
      return sameOption x ((← evalTerm fuel c k).bind (Value.array items).get?)
    | some k, some (.object es) =>
      return sameOption x ((← evalTerm fuel c k).bind (Value.object es).get?)
    | _, _ => return false

/-- The part at a path, given by keys, of the value of a term. -/
def evalPath (fuel : Nat) (c : Context) (t : Term) (path : List Value) : Run (Option Value) := do
  match fuel with
  | 0 => throw (c.fault .depth)
  | fuel + 1 =>
    match t with
    | .var x => evalName fuel c x path
    | .dot b f => evalPath fuel c b (.string f :: path)
    | .index place b k =>
      match c.chosen.lookup place with
      | some v => return v.getPath? path
      | none =>
        if isDataRooted b && (c.scope.held? "data").isNone then
          match ← evalTerm fuel c k with
          | none => return none
          | some key => evalPath fuel c b (key :: path)
        else
          let whole ← evalTerm fuel c b
          let key ← evalTerm fuel c k
          return whole.bind fun v => key.bind fun key => v.getPath? (key :: path)
    | t => return (← evalTerm fuel c t).bind fun v => v.getPath? path

/-- The part at a path of what a name means: a local variable before a root document, before the
document of rules of the package, before an imported document. -/
def evalName (fuel : Nat) (c : Context) (x : String) (path : List Value) : Run (Option Value) := do
  match fuel with
  | 0 => throw (c.fault .depth)
  | fuel + 1 =>
    match c.scope.held? x with
    | some v => return v.bind fun v => v.getPath? path
    | none =>
      if x = "input" then return c.input.bind fun v => v.getPath? path
      else if x = "data" then readData fuel c path
      else if c.localOnly then throw (c.fault (.unboundVariable x))
      else
        match c.packagePath? x with
        | none => throw (c.fault (.unboundVariable x))
        | some place =>
          if c.program.hasRule place then
            completePlace fuel c place
            return (← get).documents.getPath? (keysOf place ++ path)
          else
            match c.importPath? x with
            | some ("data" :: q) =>
              return (← readData fuel c (keysOf q)).bind fun v => v.getPath? path
            | some (_ :: q) => return c.input.bind fun v => v.getPath? (keysOf q ++ path)
            | _ => throw (c.fault (.unboundVariable x))

/-- The part of the documents at a path, after the rules that contribute to it were evaluated; for
all documents together those are the rules without the defaults. Inside of a rule, the rules of its
own module and all documents together are taken as they are. -/
def readData (fuel : Nat) (c : Context) (path : List Value) : Run (Option Value) := do
  match fuel with
  | 0 => throw (c.fault .depth)
  | fuel + 1 =>
    let place := pathNames path
    if path.isEmpty then
      if c.active.isEmpty then completeRules fuel c c.program.definitions
    else
      completeModules fuel c place
      match c.program.rulePlace? place with
      | some q => completePlace fuel c q
      | none => pure ()
    return documentPart? (← get).documents path

/-- Evaluates rules one after the other. -/
def completeRules (fuel : Nat) (c : Context) (rules : List Definition) : Run Unit := do
  match fuel with
  | 0 => throw (c.fault .depth)
  | fuel + 1 =>
    for d in rules do
      evalRule fuel c d

/-- Considers defaults one after the other. -/
def completeStandbys (fuel : Nat) (c : Context) (defaults : List Standby) : Run Unit := do
  match fuel with
  | 0 => throw (c.fault .depth)
  | fuel + 1 =>
    for d in defaults do
      evalStandby fuel c d

/-- Evaluates the modules whose packages are at or below a place, one after the other, but for the
module being evaluated. -/
def completeModules (fuel : Nat) (c : Context) (place : List String) : Run Unit := do
  match fuel with
  | 0 => throw (c.fault .depth)
  | fuel + 1 =>
    let isMeant (m : Module) : Bool :=
      place.isPrefixOf m.package && c.home.map Module.place != some m.place
    for m in c.program.modules.filter isMeant do
      (c.inModule m).makeDocument m.package (.object [])
      completeRules fuel c (c.program.definitions.filter fun d => d.home.place == m.place)
      completeStandbys fuel c (c.program.standbys.filter fun d => d.home.place == m.place)

/-- Evaluates the rules of all modules, and then the defaults of all. -/
def completeAll (fuel : Nat) (c : Context) : Run Unit := do
  match fuel with
  | 0 => throw (c.fault .depth)
  | fuel + 1 =>
    for m in c.program.modules do
      (c.inModule m).makeDocument m.package (.object [])
    completeRules fuel c c.program.definitions
    completeStandbys fuel c c.program.standbys

/-- Evaluates the rules at a place, and then the defaults there. -/
def completePlace (fuel : Nat) (c : Context) (place : List String) : Run Unit := do
  match fuel with
  | 0 => throw (c.fault .depth)
  | fuel + 1 =>
    completeRules fuel c (c.program.rulesAt place)
    completeStandbys fuel c (c.program.standbysAt place)

/-- Evaluates a rule, if that was not done before. A function without parameters has a document like
any other rule. -/
def evalRule (fuel : Nat) (c : Context) (d : Definition) : Run Unit := do
  match fuel with
  | 0 => throw (c.fault .depth)
  | fuel + 1 =>
    if (← get).rulesDone.contains d.number then return
    let c' := c.inModule d.home
    match d.rule.kind with
    | .function (_ :: _) =>
      if d.path.length > d.root.length then c'.makeDocument d.path.dropLast (.object [])
    | kind =>
      if c.active.any fun a => a.number == d.number then throw (c.recursionFault d)
      match ← evalTasks fuel { c' with active := d :: c.active } d.tasks with
      | some (place, found) =>
        for (keys, v) in found do
          match kind with
          | .member _ => c'.contribute (keysOf place ++ keys) (.set [v])
          | _ => c'.giveValue (keysOf place ++ keys) v
      | none =>
        match d.ground? with
        | some (place, v) => c'.contribute (keysOf place) v
        | none => pure ()
    modify fun s => { s with rulesDone := d.number :: s.rulesDone }

/-- Considers a default, if that was not done before: it gives its value where there is none. -/
def evalStandby (fuel : Nat) (c : Context) (d : Standby) : Run Unit := do
  match fuel with
  | 0 => throw (c.fault .depth)
  | fuel + 1 =>
    if (← get).standbysDone.contains d.number || d.value.parameters.any (!·.isEmpty) then return
    let c' := c.inModule d.home
    unless d.value.value.isClosed do throw (c'.fault .openDefault)
    match ← evalTerm fuel c' d.value.value with
    | none => pure ()
    | some v =>
      let root := d.home.package ++ [d.value.name]
      match d.value.keys.getLast? with
      | some k =>
        if k.isBracket then
          let place := root ++ headNames d.value.keys.dropLast
          match ← evalTerm fuel c' k.term with
          | none => pure ()
          | some key => c'.makeEntry place key v
        else c'.makeDocument d.path v
      | none => c'.makeDocument d.path v
    modify fun s => { s with standbysDone := d.number :: s.standbysDone }

/-- What the first task that succeeds puts where: a place, and values under keys below it. -/
def evalTasks (fuel : Nat) (c : Context) (tasks : List Task) :
    Run (Option (List String × List (List Value × Value))) := do
  match fuel with
  | 0 => throw (c.fault .depth)
  | fuel + 1 =>
    match tasks with
    | [] => return none
    | t :: r =>
      let found ← evalOutputs fuel { c with once := t.isPlain } (t.value :: t.keys) t.body
      -- the last of the choices in a solution decides whether that solution counts
      if found.any fun l => (l.getLast?.join).isSome then
        return some (t.place, found.flatten.filterMap fun vs =>
          match vs with
          | some (v :: keys) => some (keys, v)
          | _ => none)
      else evalTasks fuel c r

/-- For each solution of a body, the values of terms for each choice of parts in them. -/
def evalOutputs (fuel : Nat) (c : Context) (ts : List Term) (body : List Condition) :
    Run (List (List (Option (List Value)))) := do
  match fuel with
  | 0 => throw (c.fault .depth)
  | fuel + 1 =>
    (← evalBody fuel c body).mapM fun s => do
      let c' := c.after s
      (← evalAllParts fuel c' (c'.loops (Term.allSelections ts))).mapM fun c'' =>
        evalTerms fuel c'' ts

/-- The value of a call: of a function of the program if there is one of that name, and else of a
built-in function. It is undefined when an argument is, after all of them were evaluated. -/
def evalCall (fuel : Nat) (c : Context) (callee : List String) (arguments : List Term) :
    Run (Option Value) := do
  match fuel with
  | 0 => throw (c.fault .depth)
  | fuel + 1 =>
    let name := ".".intercalate callee
    match c.arity? callee with
    | none => throw (c.fault (.unknownFunction name))
    | some n =>
      match (← arguments.mapM fun t => evalTerm fuel c t).mapM id with
      | none => return none
      | some vs =>
        if vs.length ≠ n then throw (c.fault (.argumentCount name))
        else if (c.ownArity? callee).isNone then Builtin.apply c.source name vs
        else evalFunction fuel c (c.functions callee) (c.functionDefault? callee) vs

/-- The value of a function of the program, which all of its rules that have one agree on; where
none has, its default stands in. -/
def evalFunction (fuel : Nat) (c : Context) (functions : List (Definition × List Term))
    (standby : Option Standby) (vs : List Value) : Run (Option Value) := do
  match fuel with
  | 0 => throw (c.fault .depth)
  | fuel + 1 =>
    let values ← functions.filterMapM fun f => do
      let c' := c.inModule f.1.home
      let fit ← bindPatterns fuel c' false [] 0 (f.2.zip vs) ⟨.fresh, [], true⟩
      if !fit.holds then return none
      match ← evalTasks fuel { c' with scope := fit.scope.inner } f.1.tasks with
      | none => return none
      | some (_, found) =>
        match found.map Prod.snd with
        | [] => return none
        | v :: r => if r.all v.same then return some v else throw (c'.fault .conflict)
    match values, standby with
    | v :: r, _ => if r.all v.same then return some v else throw (c.fault .conflict)
    | [], some d => evalTerm fuel (c.inModule d.home) d.value.value
    | [], none => return none

/-- Fits a pattern to a value. Its variables take their parts of the value, a later one of a name
the place of an earlier one; all else is compared. The `last` value that a part of the pattern meets
is at fault if it is of another kind, unless that part fitted a value before. -/
def bindPattern (fuel : Nat) (c : Context) (last : Bool) (part : List Nat) (p : Term) (v : Value)
    (f : Fit) : Run Fit := do
  match fuel with
  | 0 => throw (c.fault .depth)
  | fuel + 1 =>
    let strict := last && !f.fitted.contains part
    match p, v with
    | .wildcard, _ => return f
    | .var x, v => return { f with scope := f.scope.bind x v }
    | .array items, .array vs =>
      if items.length = vs.length then
        bindPatterns fuel c last part 0 (items.zip vs) { f with fitted := part :: f.fitted }
      else if strict then throw (c.fault .patternLength)
      else return { f with holds := false }
    | .object entries, .object es => bindEntries fuel c last part 0 entries es f
    | .array _, _ | .object _, _ =>
      if strict then throw (c.fault .patternKind)
      return { f with fitted := part :: f.fitted, holds := false }
    | p, v =>
      let w ← evalTerm fuel { c with scope := f.scope, localOnly := true } p
      if strict && w.map Value.rank != some v.rank then throw (c.fault .patternKind)
      return { f with fitted := part :: f.fitted, holds := w.any v.same }

/-- Fits patterns, each to a value, one after the other as long as they fit. -/
def bindPatterns (fuel : Nat) (c : Context) (last : Bool) (part : List Nat) (n : Nat)
    (ps : List (Term × Value)) (f : Fit) : Run Fit := do
  match fuel with
  | 0 => throw (c.fault .depth)
  | fuel + 1 =>
    match ps with
    | [] => return f
    | (p, v) :: r =>
      let f' ← bindPattern fuel c last (n :: part) p v f
      if f'.holds then bindPatterns fuel c last part (n + 1) r f' else return f'

/-- Fits the entries of a pattern to those of an object under the same keys. -/
def bindEntries (fuel : Nat) (c : Context) (last : Bool) (part : List Nat) (n : Nat)
    (ps : List (Term × Term)) (es : List (Value × Value)) (f : Fit) : Run Fit := do
  match fuel with
  | 0 => throw (c.fault .depth)
  | fuel + 1 =>
    match ps with
    | [] => return f
    | (k, p) :: r =>
      let key ← evalTerm fuel { c with scope := f.scope, localOnly := true } k
      match key.bind fun key => Value.lookup key es with
      | none =>
        if last && !f.fitted.contains part then throw (c.fault .patternKind)
        return { f with holds := false }
      | some v =>
        let f' ← bindPattern fuel c last (n :: part) p v { f with fitted := part :: f.fitted }
        if f'.holds then bindEntries fuel c last part (n + 1) r es f' else return f'

/-- The value of a claim, and the local variables after it. Only where it `binds` may a call give
its result to a variable. -/
def evalClaim (fuel : Nat) (c : Context) (binds : Bool) (claim : Claim) :
    Run (Option Value × Scope) := do
  match fuel with
  | 0 => throw (c.fault .depth)
  | fuel + 1 =>
    match claim with
    | .equation true l r => evalDeclaration fuel c l r
    | .equation false l r => evalEquation fuel c l r
    | .term t =>
      match t, c.surroundings.result? t with
      | .call f arguments, some y =>
        match ← evalCall fuel c f.calleePath arguments.dropLast with
        | none => return (none, c.scope)
        | some v =>
          let yes : Option Value := some (.bool true)
          match y with
          | .wildcard => return (yes, c.scope)
          | .var x =>
            if binds && (c.scope.value? x).isNone && !c.isDocument x then
              return (yes, c.scope.bind x v)
            else return (some (.bool (sameOption (some v) (← evalTerm fuel c y))), c.scope)
          | y => return (some (.bool (sameOption (some v) (← evalTerm fuel c y))), c.scope)
      | t, _ => return (← evalTerm fuel c t, c.scope)

/-- The value of a declaration: its pattern, which is no operation, takes the parts of the value. A
variable that has a value can only be declared for a part that a selection stands for. -/
def evalDeclaration (fuel : Nat) (c : Context) (l r : Term) : Run (Option Value × Scope) := do
  match fuel with
  | 0 => throw (c.fault .depth)
  | fuel + 1 =>
    if l.isOperation then throw (c.fault .noPattern)
    match l, r with
    | .var x, r =>
      if (c.scope.value? x).isSome && !c.isChosen r then throw (c.fault (.redefined x))
    | .array ls, .array rs => if ls.length ≠ rs.length then throw (c.fault .patternLength)
    | _, _ => pure ()
    match ← evalTerm fuel c r with
    | none => return (none, c.scope)
    | some v =>
      let f ← bindPattern fuel c false [] l v ⟨c.scope, [], true⟩
      return (some (.bool f.holds), f.scope)

/-- The value of an equation. An open name takes the value of the other side; patterns on both sides
are equated part by part, entries of objects in their order and under equal keys; a pattern on one
side takes the parts of the value of the other. Any other sides, of which the left one is no
operation, make it true when they are equal, and undefined when they are not, but a name makes it
false. -/
def evalEquation (fuel : Nat) (c : Context) (l r : Term) : Run (Option Value × Scope) := do
  match fuel with
  | 0 => throw (c.fault .depth)
  | fuel + 1 =>
    if l.isOperation then throw (c.fault .noPattern)
    let yes : Option Value := some (.bool true)
    match l, r with
    | .array ls, .array rs =>
      if ls.length ≠ rs.length then throw (c.fault .patternLength)
      evalEquations fuel c (ls.zip rs)
    | .object ls, .object rs =>
      if ls.length ≠ rs.length then throw (c.fault .patternLength)
      match ← evalTerms fuel c (ls.map Prod.fst), ← evalTerms fuel c (rs.map Prod.fst) with
      | some ks, some ks' =>
        if (ks.zip ks').all fun e => e.1.same e.2 then
          evalEquations fuel c ((ls.map Prod.snd).zip (rs.map Prod.snd))
        else return (some (.bool false), c.scope)
      | _, _ => return (none, c.scope)
    | .wildcard, t | t, .wildcard => return ((← evalTerm fuel c t).bind fun _ => yes, c.scope)
    | l, r =>
      match c.openName? l, c.openName? r with
      | some x, _ =>
        match ← evalTerm fuel c r with
        | some w => return (yes, c.scope.bind x w)
        | none => return (none, c.scope)
      | none, some y =>
        match ← evalTerm fuel c l with
        | some v => return (yes, c.scope.bind y v)
        | none => return (none, c.scope)
      | none, none =>
        if isPattern l || isPattern r then
          let (p, t) := if isPattern l then (l, r) else (r, l)
          match ← evalTerm fuel c t with
          | none => return (none, c.scope)
          | some v =>
            let f ← bindPattern fuel c false [] p v ⟨c.scope, [], true⟩
            return (some (.bool f.holds), f.scope)
        else
          let v ← evalTerm fuel c l
          let w ← evalTerm fuel c r
          match v, w with
          | some v, some w =>
            let no : Option Value := if isName l || isName r then some (.bool false) else none
            return (if v.same w then yes else no, c.scope)
          | _, _ => return (none, c.scope)

/-- The value of equations taken together, which hold one after the other or not at all. -/
def evalEquations (fuel : Nat) (c : Context) (pairs : List (Term × Term)) :
    Run (Option Value × Scope) := do
  match fuel with
  | 0 => throw (c.fault .depth)
  | fuel + 1 =>
    match pairs with
    | [] => return (some (.bool true), c.scope)
    | (l, r) :: more =>
      let (v, s) ← evalEquation fuel c l r
      if isTrue v then evalEquations fuel { c with scope := s } more
      else return (some (.bool false), s)

/-- What a condition comes to once its selections stand for parts. -/
def evalCondition (fuel : Nat) (c : Context) (condition : Condition) : Run Outcome := do
  match fuel with
  | 0 => throw (c.fault .depth)
  | fuel + 1 =>
    let yes : Option Value := some (.bool true)
    match condition with
    | .holds claim =>
      let (v, s) ← evalClaim fuel c true claim
      return ⟨s, v, isTrue v⟩
    | .fails claim =>
      let choices ← evalChoices fuel c (c.loops claim.selections)
      let held ← choices.mapM fun c' => do return isTrue (← evalClaim fuel c' false claim).1
      return ⟨c.scope, yes, !held.any id⟩
    | .declare names =>
      let s ← names.foldlM (fun s x =>
        if s.declares x then throw (.declaredTwice x) else pure (s.set x none)) c.scope
      return ⟨s, yes, true⟩
    | .every key value coll body =>
      match ← evalTerm fuel c coll with
      | none => return ⟨c.scope, none, false⟩
      | some v =>
        let holds ← if v.isCollection then evalEvery fuel c.nested key value v.pairs body
          else pure false
        return ⟨c.scope, yes, holds⟩
    | .someIn _ _ _ => return ⟨c.scope, none, false⟩

/-- Whether a body holds for all of the elements of a collection; none after the first for which it
does not is looked at. -/
def evalEvery (fuel : Nat) (c : Context) (key : Option String) (value : String)
    (elements : List (Value × Value)) (body : List Condition) : Run Bool := do
  match fuel with
  | 0 => throw (c.fault .depth)
  | fuel + 1 =>
    elements.foldlM (fun holds e => do
      if !holds then return false
      let s := c.scope.bind value e.2
      let s := match key with
        | some k => s.bind k e.1
        | none => s
      return !(← evalBody fuel { c with scope := s } body).isEmpty) true

/-- The solutions of a body. -/
def evalBody (fuel : Nat) (c : Context) (body : List Condition) : Run (List Solution) := do
  match fuel with
  | 0 => throw (c.fault .depth)
  | fuel + 1 => solve fuel c (orderBody c.surroundings body)

/-- The solutions of conditions in their order. -/
def solve (fuel : Nat) (c : Context) (conditions : List Condition) : Run (List Solution) := do
  match fuel with
  | 0 => throw (c.fault .depth)
  | fuel + 1 =>
    match conditions with
    | [] => return [⟨c.scope, c.chosen, []⟩]
    | condition :: rest =>
      let loops := match condition with
        | .fails _ => []
        | condition => c.loops condition.selections
      solveChoices fuel c loops condition rest

/-- The solutions of conditions, the first of them for each choice of parts in it; where one
solution is enough, none is looked for after the first choice with a solution. -/
def solveChoices (fuel : Nat) (c : Context) (loops : List Selection) (condition : Condition)
    (rest : List Condition) : Run (List Solution) := do
  match fuel with
  | 0 => throw (c.fault .depth)
  | fuel + 1 =>
    match loops with
    | [] => solveFirst fuel c condition rest
    | l :: more =>
      (← evalParts fuel c l).foldlM (fun found c' => do
        if c.once && !found.isEmpty then return found
        else return found ++ (← solveChoices fuel c' more condition rest)) []

/-- The solutions of conditions, the selections of the first standing for parts. -/
def solveFirst (fuel : Nat) (c : Context) (condition : Condition) (rest : List Condition) :
    Run (List Solution) := do
  match fuel with
  | 0 => throw (c.fault .depth)
  | fuel + 1 =>
    match condition with
    | .someIn key value coll =>
      match ← evalTerm fuel c coll with
      | none => return []
      | some v =>
        unless v.isCollection do throw (c.fault .operandKind)
        solveElements fuel c key value v.pairs rest
    | condition =>
      let o ← evalCondition fuel c condition
      if o.holds then
        return (← solve fuel { c with scope := o.scope } rest).map fun s =>
          { s with shown := o.value :: s.shown }
      else return []

/-- The solutions of conditions for each of the elements that fit the patterns for a key and a
value. -/
def solveElements (fuel : Nat) (c : Context) (key : Option Term) (value : Term)
    (elements : List (Value × Value)) (rest : List Condition) : Run (List Solution) := do
  match fuel with
  | 0 => throw (c.fault .depth)
  | fuel + 1 =>
    let (found, _) ← elements.zipIdx.foldlM (fun (found, fitted) e => do
      let patterns := match key with
        | some k => [(k, e.1.1), (value, e.1.2)]
        | none => [(value, e.1.2)]
      let last := e.2 + 1 == elements.length
      let f ← bindPatterns fuel c last [] 0 patterns ⟨c.scope, fitted, true⟩
      let more ← if f.holds then solve fuel { c with scope := f.scope } rest else pure []
      return (found ++ more, f.fitted)) ([], [])
    return found.map fun s => { s with shown := some (.bool true) :: s.shown }

/-- The contexts for all choices of parts for selections. -/
def evalChoices (fuel : Nat) (c : Context) (loops : List Selection) : Run (List Context) := do
  match fuel with
  | 0 => throw (c.fault .depth)
  | fuel + 1 =>
    match loops with
    | [] => return [c]
    | l :: more => return (← (← evalParts fuel c l).mapM fun c' => evalChoices fuel c' more).flatten

/-- The contexts for all choices of parts where each selection stands for every part of what it
selects from, whatever its key: the key gets no value, and one that occurs twice is not the same. -/
def evalAllParts (fuel : Nat) (c : Context) (loops : List Selection) : Run (List Context) := do
  match fuel with
  | 0 => throw (c.fault .depth)
  | fuel + 1 =>
    match loops with
    | [] => return [c]
    | l :: more =>
      match ← evalTerm fuel c l.base with
      | none => return []
      | some v =>
        return (← v.pairs.mapM fun e => evalAllParts fuel (c.choose l.place e.2) more).flatten

/-- The contexts for the parts that a selection can stand for: the one under the key if that is a
variable with a value, or else all, with the key fitted to theirs in a scope of its own. -/
def evalParts (fuel : Nat) (c : Context) (l : Selection) : Run (List Context) := do
  match fuel with
  | 0 => throw (c.fault .depth)
  | fuel + 1 =>
    match ← evalTerm fuel c l.base with
    | none => return []
    | some v =>
      match c.keyValue? l.key with
      | some k => return ((v.get? k).map (c.choose l.place)).toList
      | none =>
        v.pairs.filterMapM fun e => do
          let f ← bindPattern fuel c false [] l.key e.1 ⟨c.scope.inner, [], true⟩
          return if f.holds then some ({ c with scope := f.scope }.choose l.place e.2) else none

end

end PolicyPack.Policy
