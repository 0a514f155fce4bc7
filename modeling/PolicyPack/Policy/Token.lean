import PolicyPack.Json.Token
import PolicyPack.Policy.Value

/-!
# Tokens of policy text

Policy text is cut into tokens, each with the range of characters it covers and its line. A quoted
text covers what stands between its quotes. Blank space and comments separate tokens and are
dropped. A null character ends the text.
-/

namespace PolicyPack.Policy

/-- Why a policy text cannot be used, or why its evaluation stops. -/
inductive Cause where
  /-- A character that begins no token. -/
  | character
  /-- A malformed number. -/
  | badNumber
  /-- A malformed quoted text. -/
  | badString
  /-- Tokens that form no module or query. -/
  | grammar
  /-- A variable without a value. -/
  | unboundVariable (name : String)
  /-- A variable that is given a value although it has one. -/
  | redefined (name : String)
  /-- A variable used in a condition before the one that declares it. -/
  | usedEarly (name : String)
  /-- A call of a function that does not exist. -/
  | unknownFunction (name : String)
  /-- A call with the wrong number of arguments. -/
  | argumentCount (name : String)
  /-- An operand or an argument of the wrong kind. -/
  | operandKind
  | divisionByZero
  /-- A remainder of numbers that are not whole. -/
  | fractionalRemainder
  /-- Different values where there can be only one. -/
  | conflict
  /-- A default value that could be undefined. -/
  | openDefault
  /-- A value put below one that is no object. -/
  | noObject
  /-- A pattern and a value of different lengths. -/
  | patternLength
  /-- A pattern of one kind and a value of another. -/
  | patternKind
  /-- An operation on the left of an equation. -/
  | noPattern
  /-- Clauses of one function with different numbers of parameters. -/
  | parameterCount (name : String)
  /-- The whole data document brought in under its own name. -/
  | importedRoot
  /-- A rule whose value depends on itself. -/
  | recursion (name : String)
  /-- An evaluation that goes too deep. -/
  | depth
  /-- A format that asks for more than its arguments give. -/
  | badFormat
deriving DecidableEq, Repr

/-- A fault of the policy engine. -/
inductive Fault where
  /-- A fault in a source, which is named. -/
  | diagnostic (source : String) (cause : Cause)
  /-- A variable declared twice in one scope. -/
  | declaredTwice (name : String)
  /-- A width in a format begun by a numeric character that is no digit, which stops the engine. -/
  | badWidth
deriving DecidableEq, Repr

/-- The wording of a fault: a diagnostic names its source. -/
def Fault.message : Fault → String
  | .diagnostic source _ => "<engine at " ++ source ++ ">"
  | .declaredTwice name => "duplicated definition of local variable " ++ name
  | .badWidth => "internal error: could not get digit from char"

/-- What a token is. -/
inductive TokenKind where
  /-- An operator or a bracket. -/
  | symbol (s : String)
  /-- A name or a keyword. -/
  | name (s : String)
  | number (d : Decimal)
  /-- A quoted text: escapes resolved, and as it is written. -/
  | text (s written : String)
  /-- A text between back quotes, which has no escapes. -/
  | plainText (s : String)
  /-- The end of the text. -/
  | finish
deriving DecidableEq

/-- Whether a token is a text in quotes. -/
def TokenKind.isQuoted : TokenKind → Bool
  | .text _ _ | .plainText _ => true
  | _ => false

/-- A token with its place. -/
structure Token where
  kind : TokenKind
  /-- The number of characters before it. -/
  start : Nat
  /-- The number of characters before its end. -/
  stop : Nat
  /-- The number of line breaks before it. -/
  line : Nat

/-- Whether a character can begin a name. -/
def isNameStart (c : Char) : Bool := c.isAlpha || c == '_'

/-- Whether a character can go on a name. -/
def isNamePart (c : Char) : Bool := isNameStart c || c.isDigit

/-- The characters of a quoted text up to its closing quote, escapes kept. -/
def quotedPart : List Char → Option (List Char × List Char)
  | [] => none
  | '"' :: r => some ([], r)
  | '\\' :: c :: r => (quotedPart r).map fun p => ('\\' :: c :: p.1, p.2)
  | c :: r => (quotedPart r).map fun p => (c :: p.1, p.2)

/-- The digits at the front, then a point with digits, then an exponent, as far as each is there. -/
def numberPart (s : List Char) : List Char × List Char :=
  let (whole, r) := s.span Char.isDigit
  let (fraction, r) := match r with
    | '.' :: t => let (ds, u) := t.span Char.isDigit; ('.' :: ds, u)
    | t => ([], t)
  let (power, r) := match r with
    | e :: t =>
      if e = 'e' ∨ e = 'E' then
        let (sign, t) := match t with
          | '+' :: u => (['+'], u)
          | '-' :: u => (['-'], u)
          | u => ([], u)
        let (ds, u) := t.span Char.isDigit
        (e :: (sign ++ ds), u)
      else ([], e :: t)
    | [] => ([], [])
  (whole ++ fraction ++ power, r)

/-- The number that a literal stands for: exact, but within the range of data numbers. -/
def literalNumber? (cs : List Char) : Option Decimal :=
  match Json.number false (cs.map some) with
  | .ok (_, []) => Value.decimalOfText? (String.ofList cs)
  | _ => none

/-- The symbols of two characters. -/
def wideSymbols : List (Char × Char) :=
  [(':', '='), ('=', '='), ('!', '='), ('<', '='), ('>', '=')]

/-- The symbols of one character. -/
def narrowSymbols : List Char :=
  ['\x7b', '\x7d', '[', ']', '(', ')', '+', '-', '*', '/', '%', '&', '|', ',', ';', '.', ':', '=',
    '<', '>']

/-- Where reading stands: the characters and the lines passed. -/
structure Position where
  /-- The number of characters passed. -/
  offset : Nat
  /-- The number of line breaks passed. -/
  line : Nat

/-- The position after some more characters. -/
def Position.after (p : Position) (cs : List Char) : Position :=
  ⟨p.offset + cs.length, p.line + cs.count '\n'⟩

/-- One token at the front of the text: its kind, how many characters come before and after what it
covers, and all of its characters. -/
structure Lexeme where
  kind : TokenKind
  /-- The characters it uses up. -/
  taken : List Char
  /-- The width of its quotes. -/
  quotes : Nat := 0

/-- Reads the token that begins with a character. -/
def lexeme (c : Char) (r : List Char) : Except Cause Lexeme :=
  if c = '"' then
    match quotedPart r with
    | none => .error .badString
    | some (inner, _) =>
      match Json.string ((inner ++ ['"']).map some) with
      | .ok (s, _) =>
        .ok { kind := .text s (String.ofList inner), taken := c :: inner ++ ['"'], quotes := 1 }
      | .error _ => .error .badString
  else if c = '\x60' then
    let inner := r.takeWhile fun x => x != '\x60' && x != '\x00'
    if (r.drop inner.length).head? ≠ some '\x60' then .error .badString
    else
      .ok { kind := .plainText (String.ofList inner), taken := c :: inner ++ ['\x60'], quotes := 1 }
  else if c.isDigit then
    let (cs, rest) := numberPart (c :: r)
    if (rest.head?.map fun x => isNamePart x || x == '.').getD false then .error .badNumber
    else
      match literalNumber? cs with
      | some d => .ok { kind := .number d, taken := cs }
      | none => .error .badNumber
  else if isNameStart c then
    let cs := c :: r.takeWhile isNamePart
    .ok { kind := .name (String.ofList cs), taken := cs }
  else
    match r with
    | d :: _ =>
      if (c, d) ∈ wideSymbols then .ok { kind := .symbol (String.ofList [c, d]), taken := [c, d] }
      else if c ∈ narrowSymbols then .ok { kind := .symbol (String.ofList [c]), taken := [c] }
      else .error .character
    | [] =>
      if c ∈ narrowSymbols then .ok { kind := .symbol (String.ofList [c]), taken := [c] }
      else .error .character

/-- The tokens of a text from a position on, the last of them its end. Every step uses up a
character, so `fuel` steps suffice for a text that is shorter. -/
def tokensFrom (fuel : Nat) (p : Position) (s : List Char) : Except Cause (List Token) :=
  let finish : Token := ⟨.finish, p.offset, p.offset, p.line⟩
  match fuel with
  | 0 => .ok [finish]
  | fuel + 1 =>
    match s with
    | [] => .ok [finish]
    | '\x00' :: _ => .ok [finish]
    | ' ' :: r => tokensFrom fuel (p.after [' ']) r
    | '\t' :: r => tokensFrom fuel (p.after ['\t']) r
    | '\n' :: r => tokensFrom fuel (p.after ['\n']) r
    | '\r' :: '\n' :: r => tokensFrom fuel (p.after ['\r', '\n']) r
    | '#' :: r =>
      let comment := r.takeWhile fun x => x != '\n' && x != '\x00'
      tokensFrom fuel (p.after ('#' :: comment)) (r.drop comment.length)
    | c :: r => do
      let l ← lexeme c r
      let stop := p.offset + l.taken.length
      let token : Token := ⟨l.kind, p.offset + l.quotes, stop - l.quotes, p.line⟩
      let rest ← tokensFrom fuel (p.after l.taken) ((c :: r).drop l.taken.length)
      return token :: rest

/-- The tokens of a text. -/
def tokens (s : String) : Except Cause (List Token) :=
  tokensFrom (s.toList.length + 1) ⟨0, 0⟩ s.toList

end PolicyPack.Policy
