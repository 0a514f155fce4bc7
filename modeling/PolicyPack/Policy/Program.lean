import PolicyPack.Policy.Term
import PolicyPack.Policy.Token

/-!
# Programs

A program is the modules and the base document that a query runs against. The documents of all rules
hang below one tree: the document of a rule stands at the name of its package followed by its own.
-/

namespace PolicyPack.Policy

/-- The names at the front of keys, up to the first key that is no name. -/
def headNames : List HeadKey → List String
  | [] => []
  | k :: r =>
    match k.name? with
    | some w => w :: headNames r
    | none => []

/-- A rule of a program. -/
structure Definition where
  /-- Tells the rule from all others of the program. -/
  number : Nat
  home : Module
  rule : Rule

/-- The place of the document that a rule contributes to, as far as its head names it. -/
def Definition.path (d : Definition) : List String :=
  let keys := match d.rule.kind with
    | .member none => d.rule.keys.dropLast
    | _ => d.rule.keys
  d.home.package ++ d.rule.name :: headNames keys

/-- A default of a program. -/
structure Standby where
  /-- Tells the default from all others of the program. -/
  number : Nat
  home : Module
  value : Default

/-- The place of the document that a default contributes to, as far as its head names it. -/
def Standby.path (d : Standby) : List String :=
  d.home.package ++ d.value.name :: headNames d.value.keys

/-- Modules and the data they run against. -/
structure Program where
  /-- The modules, in the order in which they were added. -/
  modules : List Module := []
  /-- The base document. -/
  data : Value := .object []

/-- Whether a place is that of a rule in a package, or lies between it and the package. -/
def isOnWay (package path place : List String) : Bool :=
  package.length < place.length && place.isPrefixOf path

namespace Program

/-- Adds a module after those already there. -/
def addModule (p : Program) (m : Module) : Program :=
  { p with modules := p.modules ++ [{ m with place := p.modules.length }] }

/-- The rules of all modules. -/
def definitions (p : Program) : List Definition :=
  (p.modules.flatMap fun m => m.rules.map fun r => (m, r)).zipIdx.map fun e =>
    ⟨e.2, e.1.1, e.1.2⟩

/-- The defaults of all modules. -/
def standbys (p : Program) : List Standby :=
  (p.modules.flatMap fun m => m.defaults.map fun d => (m, d)).zipIdx.map fun e =>
    ⟨e.2, e.1.1, e.1.2⟩

/-- The rules that contribute to the document at a place, or to a part of it that their heads
name. -/
def rulesAt (p : Program) (place : List String) : List Definition :=
  p.definitions.filter fun d => isOnWay d.home.package d.path place

/-- The defaults that stand in at a place, or at a part of it that their heads name. -/
def standbysAt (p : Program) (place : List String) : List Standby :=
  p.standbys.filter fun d => isOnWay d.home.package d.path place

/-- Whether a rule or a default contributes to the document at a place. -/
def hasRule (p : Program) (place : List String) : Bool :=
  !(p.rulesAt place).isEmpty || !(p.standbysAt place).isEmpty

/-- The longest beginning of a path where a rule or a default contributes. -/
def rulePlace? (p : Program) (path : List String) : Option (List String) :=
  ((List.range (path.length + 1)).reverse.map path.take).find? p.hasRule

/-- The rules of the function at a place with their parameters. -/
def functionsAt (p : Program) (place : List String) : List (Definition × List Term) :=
  p.definitions.filterMap fun d =>
    match d.rule.kind with
    | .function ps => if d.path = place then some (d, ps) else none
    | _ => none

/-- The default of the function at a place. -/
def functionDefault? (p : Program) (place : List String) : Option Standby :=
  p.standbys.find? fun d => d.value.parameters.isSome && d.path == place

/-- The document that a package knows by a name. -/
def importOf? (p : Program) (package : List String) (x : String) : Option (List String) :=
  let known := (p.modules.filter fun m => m.package == package).flatMap Module.imports
  (known.reverse.find? fun i => i.name == x).map Import.path

/-- How many steps an evaluation can take down: each rule is evaluated at most once at a time, and
its terms nest no deeper than its text is long. The rest is for functions that call themselves. -/
def depth (p : Program) : Nat := 16 * p.modules.foldl (fun n m => n + m.extent) 0 + 8192

/-- The fault of a rule that gives a function another number of parameters than an earlier rule
does. -/
def parameterFault? (p : Program) : Option Fault :=
  p.definitions.findSome? fun d =>
    match d.rule.kind with
    | .function ps =>
      match p.functionsAt d.path with
      | first :: _ =>
        if first.2.length = ps.length then none
        else some (.diagnostic d.home.source (.parameterCount d.rule.name))
      | [] => none
    | _ => none

/-- The fault of an import of all data under its own name. -/
def importFault? (p : Program) : Option Fault :=
  p.modules.findSome? fun m =>
    (m.imports.find? fun i => i.path == ["data"] && !i.renamed).map fun _ =>
      .diagnostic m.source .importedRoot

end Program

end PolicyPack.Policy
