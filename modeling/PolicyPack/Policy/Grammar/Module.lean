import PolicyPack.Policy.Grammar.Term
import PolicyPack.Policy.Names

/-!
# Reading modules

A module names its package, then its imports, then gives its rules and defaults. A rule is a head
and its bodies; further bodies in braces, or clauses begun by `else`, stand in where those before
them give no value.
-/

namespace PolicyPack.Policy

open Parse

/-- Reads the parts of a path after its first. -/
def parsePathParts (fuel : Nat) : Parse (List String) := do
  match fuel with
  | 0 => return []
  | fuel + 1 =>
    if ← seesClose "." then
      let w ← pathField
      return w :: (← parsePathParts fuel)
    else if ← seesClose "[" then
      skip
      let s ← writtenText
      expect "]"
      return s :: (← parsePathParts fuel)
    else return []

/-- Reads a path of names and quoted texts. -/
def parsePath (fuel : Nat) : Parse (List String) := do
  let w ← name
  return w :: (← parsePathParts fuel)

/-! ### Imports -/

/-- The keywords that an import brings into force, or none if it is one of a document. -/
def importedKeywords? : List String → Option (List String)
  | ["rego", "v1"] | ["future", "keywords"] => some Keywords.optional
  | ["future", "keywords", w] => some [w]
  | _ => none

/-- Whether an import can stand after others: not twice under one chosen name, and not twice the
same document under its own. -/
def Import.clashes (i : Import) (before : List Import) : Bool :=
  before.any fun j =>
    if i.renamed && j.renamed then i.name == j.name
    else !i.renamed && !j.renamed && i.path == j.path

/-- Reads an import after its keyword: keywords come into force, and a document gets a name. -/
def parseImport (fuel : Nat) (before : List Import) : Parse (List Import) := do
  let path ← parsePath fuel
  let alias? ← if ← acceptKeyword "as" then pure (some (← name)) else pure none
  match importedKeywords? path, alias? with
  | some ws, none =>
    let k := (← get).keywords
    match { k with strict := k.strict || path == ["rego", "v1"] }.bringAll? ws with
    | some k' => modify fun c => { c with keywords := k' }
    | none => refuse
    return before
  | some _, some _ => refuse
  | none, _ =>
    let i : Import := ⟨alias?.getD (path.getLastD ""), path, alias?.isSome⟩
    unless path.head? == some "data" || path.head? == some "input" do refuse
    if i.name == "_" || i.clashes before then refuse
    return before ++ [i]

/-- Reads the imports. -/
def parseImports (fuel : Nat) (before : List Import) : Parse (List Import) := do
  match fuel with
  | 0 => return before
  | fuel + 1 =>
    if ← acceptKeyword "import" then parseImports fuel (← parseImport fuel before)
    else return before

/-! ### Rules -/

/-- Reads the value of a rule if one is written. -/
def parseRuleValue (fuel : Nat) : Parse (Option Term) := do
  if (← accept ":=") || (← accept "=") then
    return some (← parseKeyedTerm fuel)
  else return none

/-- Whether a body comes next. -/
def seesBody : Parse Bool := do return (← seesKeyword "if") || (← sees "\x7b")

/-- Reads the body of a rule if there is one. What follows `if` is a body in braces where it reads
as one, and else a condition. -/
def parseRuleBody (fuel : Nat) : Parse (Option (List Condition)) := do
  if ← acceptKeyword "if" then
    match ← attempt (parseBraces fuel) with
    | some body => return some body
    | none => return some [← parseCondition fuel]
  else if ← sees "\x7b" then
    if (← get).keywords.strict then refuse
    return some (← parseBraces fuel)
  else return none

/-- Reads further bodies in braces. -/
def parseFurtherBodies (fuel : Nat) : Parse (List Clause) := do
  match fuel with
  | 0 => return []
  | fuel + 1 =>
    if ← sees "\x7b" then
      let body ← parseBraces fuel
      return ⟨none, body⟩ :: (← parseFurtherBodies fuel)
    else return []

/-- Reads clauses begun by `else`; one without a body is the last. -/
def parseElse (fuel : Nat) : Parse (List Clause) := do
  match fuel with
  | 0 => return []
  | fuel + 1 =>
    if ← acceptKeyword "else" then
      let value ← parseRuleValue fuel
      match ← parseRuleBody fuel with
      | some body => return ⟨value, body⟩ :: (← parseElse fuel)
      | none => if value.isNone then refuse else return [⟨value, []⟩]
    else return []

/-- Reads the bodies of a rule with a value for its first clause. -/
def parseClauses (fuel : Nat) (value : Option Term) : Parse (List Clause) := do
  match ← parseRuleBody fuel with
  | none => return [⟨value, []⟩]
  | some body =>
    let more ← if ← sees "\x7b" then parseFurtherBodies fuel else parseElse fuel
    return ⟨value, body⟩ :: more

/-- Reads the keys after the name of a rule. -/
def parseKeys (fuel : Nat) : Parse (List HeadKey) := do
  match fuel with
  | 0 => return []
  | fuel + 1 =>
    if ← seesClose "." then
      let w ← field
      return .field w :: (← parseKeys fuel)
    else if ← seesClose "[" then
      skip
      let k ← match ← peekKind with
        | .text s _ =>
          match ← attempt (do let w ← writtenText; expect "]"; return w) with
          | some w => pure (HeadKey.text s w)
          | none =>
            let t ← parseTerm fuel
            expect "]"
            pure (.bracket t)
        | _ =>
          let t ← parseTerm fuel
          expect "]"
          pure (.bracket t)
      return k :: (← parseKeys fuel)
    else return []

/-- Reads the name of a rule: under strict keywords it is not that of a root document. -/
def parseRuleName : Parse String := do
  let w ← name
  if (← get).keywords.strict && (w == "data" || w == "input") then refuse
  return w

/-- Whether terms are variables, those with names different from each other. -/
def areDistinctVariables : List Term → Bool
  | [] => true
  | .wildcard :: r => areDistinctVariables r
  | .var x :: r => !(Term.allNames r).contains x && areDistinctVariables r
  | _ :: _ => false

/-- Reads a default after its keyword. One for a function names its parameters. -/
def parseDefault (fuel : Nat) : Parse Default := do
  let name ← parseRuleName
  let keys ← parseKeys fuel
  let parameters ← if ← accept "(" then pure (some (← parseTerms fuel ")")) else pure none
  unless areDistinctVariables (parameters.getD []) do refuse
  unless (← accept ":=") || (← accept "=") do refuse
  return ⟨name, keys, parameters, ← parseOperand fuel⟩

/-- Whether a rule without a value adds its key to a set: it has one key and either a body in braces
or nothing after it. -/
def makesSet (keys : List HeadKey) : Parse Bool := do
  return keys.length == 1 && ((← sees "\x7b") || (← peekKind) == .finish)

/-- Whether strict keywords ask for a value or a body of a rule: its head is all names. -/
def needsValue (keys : List HeadKey) : Parse Bool := do
  return (← get).keywords.strict && !(keys.getLast?.any HeadKey.isBracket) && !(← seesBody)

/-- Reads a rule. -/
def parseRule (fuel : Nat) : Parse Rule := do
  let name ← parseRuleName
  let keys ← parseKeys fuel
  if ← accept "(" then
    let parameters ← parseTerms fuel ")"
    let value ← parseRuleValue fuel
    if value.isNone && !(← seesBody) then refuse
    return ⟨name, keys, .function parameters, ← parseClauses fuel value⟩
  else if ← acceptKeyword "contains" then
    let element ← parseTerm fuel
    return ⟨name, keys, .member (some element), ← parseClauses fuel none⟩
  else
    let value ← parseRuleValue fuel
    if value.isNone && (← needsValue keys) then refuse
    let kind := if value.isNone && (← makesSet keys) then RuleKind.member none else .value
    return ⟨name, keys, kind, ← parseClauses fuel value⟩

/-- Reads rules and defaults up to the end of the text. -/
def parseRules (fuel : Nat) : Parse (List Rule × List Default) := do
  match fuel with
  | 0 => refuse
  | fuel + 1 =>
    if (← peekKind) == .finish then return ([], [])
    else if ← acceptKeyword "default" then
      let d ← parseDefault fuel
      let more ← parseRules fuel
      return (more.1, d :: more.2)
    else
      let r ← parseRule fuel
      let more ← parseRules fuel
      return (r :: more.1, more.2)

/-- Reads a module that diagnostics call `source`. -/
def parseModule (source text : String) : Except Cause Module := do
  let ts ← tokens text
  let fuel := parseFuel ts
  let parser : Parse Module := do
    unless ← acceptKeyword "package" do refuse
    let package ← parsePath fuel
    let imports ← parseImports fuel []
    let (rules, defaults) ← parseRules fuel
    return {
      source := source
      package := package
      imports := imports
      rules := rules
      defaults := defaults
      extent := text.length }
  return (← parser.run { rest := ts }).1

end PolicyPack.Policy
