import PolicyPack.Policy.Grammar.Cursor
import PolicyPack.Policy.Term

/-!
# Reading terms and conditions

A recursive descent over tokens. Operators bind, from the loosest: `in`, comparisons, `|`, `&`,
sums, products. A minus sign right before a number belongs to it; any other minus sign before an
operand takes the whole term that follows. A selector must follow its base without blank space; a
call takes a name, perhaps with points. The conditions of a body stand on lines of their own or
between semicolons.

Every function of the descent passes on less `fuel` than it gets. The depth of the descent is at
most a fixed number of calls for each token, so the amount `parseFuel` is never used up.
-/

namespace PolicyPack.Policy

open Parse

/-- The operators of one level with what they build. -/
abbrev Level := List (String × (Term → Term → Term))

/-- The operators from the comparisons inwards. -/
def operatorLevels : List Level := [
  [("==", .comparison .eq), ("!=", .comparison .ne), ("<", .comparison .lt),
    ("<=", .comparison .le), (">", .comparison .gt), (">=", .comparison .ge)],
  [("|", .union)],
  [("&", .intersection)],
  [("+", .arithmetic .add), ("-", .arithmetic .sub)],
  [("*", .arithmetic .mul), ("/", .arithmetic .div), ("%", .arithmetic .rem)]]

/-- Whether a term can be called: a name, perhaps with points. -/
def Term.isCallable : Term → Bool
  | .var _ => true
  | .dot b _ => b.isCallable
  | _ => false

/-- Whether a term is the name of a root document. -/
def Term.isRoot : Term → Bool
  | .var x => x == "data" || x == "input"
  | _ => false

/-- Whether a term can be followed by a selector. -/
def Term.isSelectable : Term → Bool
  | .literal (.set _) => true
  | .literal _ => false
  | _ => true

mutual

/-- Reads a term that may be a membership. -/
def parseTerm (fuel : Nat) : Parse Term := do
  match fuel with
  | 0 => refuse
  | fuel + 1 =>
    let t ← parseLevel fuel operatorLevels
    parseMember fuel t

/-- Reads a term that may be a membership with a key. -/
def parseKeyedTerm (fuel : Nat) : Parse Term := do
  match fuel with
  | 0 => refuse
  | fuel + 1 =>
    let t ← parseLevel fuel operatorLevels
    if ← accept "," then
      let v ← parseLevel fuel operatorLevels
      unless ← acceptKeyword "in" do refuse
      let c ← parseLevel fuel operatorLevels
      parseMember fuel (.member (some t) v c)
    else parseMember fuel t

/-- Goes on after a term that may be the value of a membership. -/
def parseMember (fuel : Nat) (t : Term) : Parse Term := do
  match fuel with
  | 0 => return t
  | fuel + 1 =>
    if ← acceptKeyword "in" then
      let c ← parseLevel fuel operatorLevels
      parseMember fuel (.member none t c)
    else return t

/-- Reads operands joined by the operators of the outermost of the levels. -/
def parseLevel (fuel : Nat) (levels : List Level) : Parse Term := do
  match fuel with
  | 0 => refuse
  | fuel + 1 =>
    match levels with
    | [] => parseOperand fuel
    | level :: inner =>
      let t ← parseLevel fuel inner
      parseOperators fuel level inner t

/-- Goes on after the first operand of a level; operators of one level group to the left. -/
def parseOperators (fuel : Nat) (level : Level) (inner : List Level) (t : Term) : Parse Term := do
  match fuel with
  | 0 => return t
  | fuel + 1 =>
    match ← peekKind with
    | .symbol s =>
      match level.lookup s with
      | some build =>
        skip
        let u ← parseLevel fuel inner
        parseOperators fuel level inner (build t u)
      | none => return t
    | _ => return t

/-- Reads an operand: a term in parentheses, a negative, or a reference. -/
def parseOperand (fuel : Nat) : Parse Term := do
  match fuel with
  | 0 => refuse
  | fuel + 1 =>
    match ← peekKind with
    | .symbol "(" =>
      skip
      let t ← parseKeyedTerm fuel
      expect ")"
      return t
    | .symbol "-" =>
      skip
      match ← isClose, ← peekKind with
      | true, .number d =>
        skip
        return .literal (.number d.neg)
      | _, _ => return .negative (← parseTerm fuel)
    | _ => parseReference fuel

/-- Reads a term with its selectors and calls. -/
def parseReference (fuel : Nat) : Parse Term := do
  match fuel with
  | 0 => refuse
  | fuel + 1 =>
    let t ← parseAtom fuel
    if t.isSelectable then parseSelectors fuel t else return t

/-- Goes on after a term with selectors and calls. A quoted text in brackets selects like a name. -/
def parseSelectors (fuel : Nat) (t : Term) : Parse Term := do
  match fuel with
  | 0 => return t
  | fuel + 1 =>
    if ← seesClose "." then
      let w ← field
      parseSelectors fuel (.dot t w)
    else if ← seesClose "[" then
      let bracket ← peek
      skip
      match ← attempt (do let w ← writtenText; expect "]"; return w) with
      | some w => parseSelectors fuel (.dot t w)
      | none =>
        let k ← parseTerm fuel
        expect "]"
        parseSelectors fuel (.index bracket.start t k)
    else if t.isCallable && (← sees "(") then
      skip
      let args ← parseTerms fuel ")"
      parseSelectors fuel (.call t args)
    else return t

/-- Reads terms separated by commas up to a closing symbol; a comma may stand before it. -/
def parseTerms (fuel : Nat) (closing : String) : Parse (List Term) := do
  match fuel with
  | 0 => refuse
  | fuel + 1 =>
    if ← accept closing then return []
    let t ← parseTerm fuel
    return t :: (← parseMoreTerms fuel closing)

/-- Reads entries separated by commas up to the closing brace. -/
def parseEntries (fuel : Nat) : Parse (List (Term × Term)) := do
  match fuel with
  | 0 => refuse
  | fuel + 1 =>
    if ← accept "\x7d" then return []
    let k ← parseTerm fuel
    expect ":"
    let v ← parseTerm fuel
    if ← accept "," then
      let es ← parseEntries fuel
      return (k, v) :: es
    else
      expect "\x7d"
      return [(k, v)]

/-- Reads the first term of a collection. An operand with a bar and a body up to the closing symbol
after it is that of a comprehension; where no body follows, the bar is that of a union. -/
def parseFirst (fuel : Nat) (closing : String) : Parse (Term × Option (List Condition)) := do
  match fuel with
  | 0 => refuse
  | fuel + 1 =>
    let operand : Parse (Term × Option (List Condition)) := do
      let t ← parseOperand fuel
      if ← accept "|" then
        let body ← parseBody fuel
        expect closing
        return (t, some body)
      else if ← endsItem then return (t, none)
      else refuse
    match ← attempt operand with
    | some r => return r
    | none => return (← parseTerm fuel, none)

/-- Reads the terms after the first up to a closing symbol. -/
def parseMoreTerms (fuel : Nat) (closing : String) : Parse (List Term) := do
  match fuel with
  | 0 => refuse
  | fuel + 1 =>
    if ← accept "," then parseTerms fuel closing
    else
      expect closing
      return []

/-- Reads a term without operators around it. -/
def parseAtom (fuel : Nat) : Parse Term := do
  match fuel with
  | 0 => refuse
  | fuel + 1 =>
    match ← peekKind with
    | .number d =>
      skip
      return .literal (.number d)
    | .text s _ | .plainText s =>
      skip
      return .literal (.string s)
    | .name "true" =>
      skip
      return .literal (.bool true)
    | .name "false" =>
      skip
      return .literal (.bool false)
    | .name "null" =>
      skip
      return .literal .null
    | .name "_" =>
      skip
      return .wildcard
    | .name w =>
      let x ← name
      -- nothing between the parentheses after `set` makes the empty set
      if w = "set" && (← seesClose "(") then
        match ← attempt (do skip; expect ")") with
        | some _ => return .literal (.set [])
        | none => return .var x
      else return .var x
    | .symbol "[" =>
      skip
      if ← accept "]" then return .array []
      match ← parseFirst fuel "]" with
      | (t, some body) => return .arrayOf t body
      | (t, none) => return .array (t :: (← parseMoreTerms fuel "]"))
    | .symbol "\x7b" =>
      skip
      if ← accept "\x7d" then return .object []
      match ← parseFirst fuel "\x7d" with
      | (t, some body) => return .setOf t body
      | (t, none) =>
        if ← accept ":" then
          match ← parseFirst fuel "\x7d" with
          | (v, some body) => return .objectOf t v body
          | (v, none) =>
            if ← accept "," then return .object ((t, v) :: (← parseEntries fuel))
            else
              expect "\x7d"
              return .object [(t, v)]
        else return .set (t :: (← parseMoreTerms fuel "\x7d"))
    | _ => refuse

/-- Reads a condition. -/
def parseCondition (fuel : Nat) : Parse Condition := do
  match fuel with
  | 0 => refuse
  | fuel + 1 =>
    if ← acceptKeyword "not" then
      return .fails (← parseClaim fuel)
    else if ← acceptKeyword "some" then
      let first ← parseReference fuel
      let more ← parseMoreReferences fuel
      if ← acceptKeyword "in" then
        let c ← parseLevel fuel operatorLevels
        match more with
        | [] => return .someIn none first c
        | [v] => return .someIn (some first) v c
        | _ => refuse
      else
        let names ← (first :: more).mapM fun t =>
          match t with
          | .var x => pure x
          | _ => refuse
        return .declare names
    else if ← acceptKeyword "every" then
      let first ← name
      let second ← if ← accept "," then pure (some (← name)) else pure none
      unless ← acceptKeyword "in" do refuse
      let c ← parseLevel fuel operatorLevels
      let body ← parseBraces fuel
      match second with
      | none => return .every none first c body
      | some v => return .every (some first) v c body
    else return .holds (← parseClaim fuel)

/-- Reads references that follow commas. -/
def parseMoreReferences (fuel : Nat) : Parse (List Term) := do
  match fuel with
  | 0 => refuse
  | fuel + 1 =>
    if ← accept "," then
      let t ← parseReference fuel
      let ts ← parseMoreReferences fuel
      return t :: ts
    else return []

/-- Reads a term that may be a side of an equation. Under strict keywords no root document is
declared. -/
def parseClaim (fuel : Nat) : Parse Claim := do
  match fuel with
  | 0 => refuse
  | fuel + 1 =>
    let t ← parseKeyedTerm fuel
    if ← accept ":=" then
      if (← get).keywords.strict && t.isRoot then refuse
      return .equation true t (← parseKeyedTerm fuel)
    else if ← accept "=" then
      return .equation false t (← parseKeyedTerm fuel)
    else return .term t

/-- Reads the conditions of a body up to its closing symbol. -/
def parseBody (fuel : Nat) : Parse (List Condition) := do
  match fuel with
  | 0 => refuse
  | fuel + 1 =>
    let c ← parseCondition fuel
    if (← sees "\x7d") || (← sees "]") then return [c]
    else
      let t ← peek
      if ← accept ";" then
        let cs ← parseBody fuel
        return c :: cs
      else if (← get).line < t.line && t.kind != .finish then
        let cs ← parseBody fuel
        return c :: cs
      else refuse

/-- Reads a body in braces. -/
def parseBraces (fuel : Nat) : Parse (List Condition) := do
  match fuel with
  | 0 => refuse
  | fuel + 1 =>
    expect "\x7b"
    let body ← parseBody fuel
    expect "\x7d"
    return body

end

/-- An amount of fuel that no descent over the tokens uses up. -/
def parseFuel (ts : List Token) : Nat := 16 * ts.length + 16

end PolicyPack.Policy
