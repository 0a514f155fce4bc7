import PolicyPack.Policy.Token

/-!
# Reading tokens

A step of a descent over tokens takes from the front of those that are left, and fails where they do
not fit. Which words are keywords changes on the way, as imports bring optional keywords into force.
-/

namespace PolicyPack.Policy

/-- The words that are keywords. -/
structure Keywords where
  /-- Whether bodies need the keyword `if`, and keywords may be brought into force only once. -/
  strict : Bool := false
  /-- The optional keywords in force. -/
  imported : List String := []

namespace Keywords

/-- The keywords of every module. -/
def reserved : List String :=
  ["as", "default", "else", "false", "import", "null", "not", "package", "some", "true", "with"]

/-- The keywords that a module has to import. -/
def optional : List String := ["contains", "every", "if", "in"]

/-- Whether a word is a keyword. -/
def contains (k : Keywords) (w : String) : Bool := w ∈ reserved || w ∈ k.imported

/-- Whether a word can name something: `contains` can even where it is a keyword. -/
def allowsName (k : Keywords) (w : String) : Bool := w == "contains" || !k.contains w

/-- Brings a keyword into force, and with `every` also `in`; under strict keywords none of them may
be in force before. -/
def bring? (k : Keywords) (w : String) : Option Keywords :=
  if k.strict then
    if w ∈ k.imported then none else some { k with imported := w :: k.imported }
  else some { k with imported := (if w = "every" then ["every", "in"] else [w]) ++ k.imported }

/-- Brings keywords into force, one after the other. -/
def bringAll? (k : Keywords) (ws : List String) : Option Keywords :=
  ws.foldl (fun k? w => k?.bind fun k => k.bring? w) (some k)

end Keywords

/-- Where the descent stands. -/
structure Cursor where
  /-- The words that are keywords. -/
  keywords : Keywords := {}
  /-- The number of characters before the end of the last token. -/
  stop : Nat := 0
  /-- The line of the last token. -/
  line : Nat := 0
  /-- The tokens that are left. -/
  rest : List Token

/-- A step of the descent. -/
abbrev Parse := StateT Cursor (Except Cause)

namespace Parse

/-- Gives up. -/
def refuse {α : Type} : Parse α := throw .grammar

/-- The next token. -/
def peek : Parse Token := do
  let c ← get
  return c.rest.headD ⟨.finish, c.stop, c.stop, c.line⟩

/-- What the next token is. -/
def peekKind : Parse TokenKind := do return (← peek).kind

/-- Passes over the next token. -/
def skip : Parse Unit := do
  let t ← peek
  modify fun c => { c with stop := t.stop, line := t.line, rest := c.rest.drop 1 }

/-- Reads in the first way, or stays in place where that fails. -/
def attempt {α : Type} (p : Parse α) : Parse (Option α) := fun c =>
  match p.run c with
  | .ok (x, c') => .ok (some x, c')
  | .error _ => .ok (none, c)

/-- Whether the next token is this symbol. -/
def sees (s : String) : Parse Bool := do return (← peekKind) == .symbol s

/-- Whether the next token is a symbol that ends an item of a collection. -/
def endsItem : Parse Bool := do
  return (← sees ",") || (← sees ":") || (← sees "]") || (← sees "\x7d")

/-- Whether the next token is this word. -/
def seesWord (w : String) : Parse Bool := do return (← peekKind) == .name w

/-- Whether the next token is this word and the word is a keyword. -/
def seesKeyword (w : String) : Parse Bool := do
  return (← seesWord w) && (← get).keywords.contains w

/-- Whether the next token follows without blank space. -/
def isClose : Parse Bool := do return (← peek).start == (← get).stop

/-- Passes over a symbol if it comes next. -/
def accept (s : String) : Parse Bool := do
  if ← sees s then
    skip
    return true
  else return false

/-- Passes over a keyword if it comes next. -/
def acceptKeyword (w : String) : Parse Bool := do
  if ← seesKeyword w then
    skip
    return true
  else return false

/-- Passes over a symbol that must come next. -/
def expect (s : String) : Parse Unit := do
  unless ← accept s do refuse

/-- Whether the next token is this symbol and follows without blank space. -/
def seesClose (s : String) : Parse Bool := do return (← sees s) && (← isClose)

/-- Reads a word that can name something. -/
def name : Parse String := do
  match ← peekKind with
  | .name w =>
    if (← get).keywords.allowsName w then
      skip
      return w
    else refuse
  | _ => refuse

/-- Reads a point, which comes next, and the name that follows it without blank space. -/
def field : Parse String := do
  skip
  if ← isClose then name else refuse

/-- Reads a point, which comes next, and the part of a path that follows it without blank space.
Only a reserved word is none. -/
def pathField : Parse String := do
  skip
  match ← isClose, ← peekKind with
  | true, .name w =>
    if w ∈ Keywords.reserved then refuse
    skip
    return w
  | _, _ => refuse

/-- Reads a quoted text, as it is written. -/
def writtenText : Parse String := do
  match ← peekKind with
  | .text _ w =>
    skip
    return w
  | _ => refuse

end Parse

end PolicyPack.Policy
