import PolicyPack.Yaml.ScalarText

/-!
# Tokens of YAML text

Indentation and flow brackets give a text its tokens. A colon can turn what stands before it, on the
same line and within 1024 bytes, into a key; the tokens that open a mapping are then put in
front of it. Whether that happens is known only later, so when the text turns out malformed, the
tokens after the first possible key are not known either.
-/

namespace PolicyPack.Yaml

/-- How a scalar is written. -/
inductive ScalarStyle where
  /-- Without quotes. -/
  | plain
  /-- In quotes. -/
  | quoted
  /-- As a block that keeps its lines. -/
  | literal
  /-- As a block whose lines are folded. -/
  | folded
deriving DecidableEq, Repr

/-- A token. -/
inductive Token where
  | textEnd
  /-- The directive that names the version of the format. -/
  | version (major minor : Nat)
  /-- The directive that gives tags with a handle their beginning. -/
  | handle (name beginning : String)
  /-- The mark that begins a document. -/
  | documentStart
  /-- The mark that ends a document. -/
  | documentEnd
  /-- The beginning of an indented sequence. -/
  | blockSequence
  /-- The beginning of an indented mapping. -/
  | blockMapping
  /-- The end of an indented collection. -/
  | blockEnd
  /-- The beginning of a sequence in brackets. -/
  | flowSequence
  /-- The end of a sequence in brackets. -/
  | flowSequenceEnd
  /-- The beginning of a mapping in braces. -/
  | flowMapping
  /-- The end of a mapping in braces. -/
  | flowMappingEnd
  /-- The mark of an item of an indented sequence. -/
  | blockEntry
  /-- The comma in a flow collection. -/
  | flowEntry
  /-- What follows is a key. -/
  | key
  /-- What follows is the value of a key. -/
  | value
  /-- The name of a value that has been written before. -/
  | alias (name : String)
  /-- The name given to the value that follows. -/
  | anchor (name : String)
  /-- The tag of the value that follows: the handle and the rest. -/
  | tag (handle tail : String)
  | scalar (text : String) (style : ScalarStyle)
deriving DecidableEq, Repr

/-- What may still turn out to be a key. -/
structure PossibleKey where
  /-- Whether only a key can stand here. -/
  required : Bool
  /-- The number of tokens before it. -/
  number : Nat
  /-- Where it begins. -/
  place : Cursor

/-- How far the tokens of a text have been found. -/
structure Layout where
  /-- The text that is left. -/
  cursor : Cursor
  /-- The tokens found, last first. -/
  tokens : List Token := []
  /-- The columns of the open indented collections, the innermost first. -/
  indents : List Nat := []
  /-- The possible key of every open flow collection, the innermost first, and of the block around
  them. -/
  keys : List (Option PossibleKey) := [none]
  /-- Whether a key may begin here. -/
  keyAllowed : Bool := true
  /-- Whether the end has been found. -/
  finished : Bool := false

namespace Layout

/-- Whether a flow collection is open. -/
def inFlow (s : Layout) : Bool := s.keys.length > 1

/-- The column that is just right of the innermost indented collection. -/
def innerColumn (s : Layout) : Nat :=
  match s.indents with
  | [] => 0
  | n :: _ => n + 1

/-- Adds a token. -/
def push (s : Layout) (t : Token) : Layout := { s with tokens := t :: s.tokens }

/-- Passes characters of one line. -/
def skip (s : Layout) (n : Nat) : Layout := { s with cursor := s.cursor.skip n }

/-- Says whether a key may begin next. -/
def allowKey (s : Layout) (b : Bool) : Layout := { s with keyAllowed := b }

/-- Puts tokens after the first `number` tokens. -/
def insertAt (s : Layout) (number : Nat) (ts : List Token) : Layout :=
  let newer := s.tokens.length - number
  { s with tokens := s.tokens.take newer ++ ts.reverse ++ s.tokens.drop newer }

/-- Opens an indented collection at a column, if it is right of the innermost one, with its token
after the first `number` tokens. -/
def indentTo (s : Layout) (column number : Nat) (t : Token) : Layout :=
  if s.inFlow || column < s.innerColumn then s
  else { s.insertAt number [t] with indents := column :: s.indents }

/-- Closes the indented collections that stand right of a column, or all of them. -/
def dedentTo (s : Layout) (column? : Option Nat) : Layout :=
  if s.inFlow then s
  else
    let closes (n : Nat) : Bool :=
      match column? with
      | some column => decide (column < n)
      | none => true
    let closed := (s.indents.takeWhile closes).length
    { s with
      indents := s.indents.drop closed
      tokens := List.replicate closed Token.blockEnd ++ s.tokens }

/-- Gives up the possible key of the innermost collection. -/
def dropKey (s : Layout) : Option Layout :=
  match s.keys with
  | some k :: ks => if k.required then none else some { s with keys := none :: ks }
  | _ => some s

/-- Remembers that a key may begin here. -/
def saveKey (s : Layout) : Option Layout :=
  if s.keyAllowed then do
    let required := !s.inFlow && s.indents.head? == some s.cursor.column
    let s ← s.dropKey
    return { s with keys := some ⟨required, s.tokens.length, s.cursor⟩ :: s.keys.tail }
  else some s

/-- Gives up the possible keys on earlier lines and those too far back. -/
def dropStaleKeys (s : Layout) : Option Layout := do
  let isStale (k : PossibleKey) : Bool :=
    k.place.line < s.cursor.line || k.place.index + 1024 < s.cursor.index
  if s.keys.any fun k? => (k?.map fun k => k.required && isStale k).getD false then none
  return { s with keys := s.keys.map fun k? => k?.filter fun k => !isStale k }

/-- Passes blanks, comments and line breaks. -/
def skipSpace (fuel : Nat) (s : Layout) : Layout :=
  match fuel with
  | 0 => s
  | fuel + 1 =>
    match s.cursor.rest with
    | [] => s
    | x :: _ =>
      if x = '\ufeff' ∧ s.cursor.column = 0 then skipSpace fuel (s.skip 1)
      else if x = ' ' ∨ (x = '\t' ∧ (s.inFlow ∨ ¬s.keyAllowed)) then skipSpace fuel (s.skip 1)
      else if x = '#' then
        skipSpace fuel { s with cursor := s.cursor.skipWhile fun y => !isBreak y }
      else if isBreak x then
        let s := { s with cursor := s.cursor.skipBreak }
        skipSpace fuel (if s.inFlow then s else s.allowKey true)
      else s

/-! ### The kinds of tokens -/

/-- The end of the text. -/
def addTextEnd (s : Layout) : Option Layout := do
  let s ← (s.dedentTo none).dropKey
  return { (s.allowKey false).push .textEnd with finished := true }

/-- A mark between documents. -/
def addDocumentMark (s : Layout) (t : Token) : Option Layout := do
  let s ← (s.dedentTo none).dropKey
  return ((s.allowKey false).push t).skip 3

/-- Whether a character may be part of the name of a value. -/
def isNameCharacter (c : Char) : Bool := c.isAlphanum || c == '_' || c == '-'

/-- Whether a character may be part of a tag. -/
def isTagCharacter (c : Char) : Bool :=
  isNameCharacter c
    || c ∈ [';', '/', '?', ':', '@', '&', '=', '+', '$', '.', '!', '~', '*', '\'', '(', ')']

/-- Reads the tail of a tag, in which a percent sign and two hexadecimal digits stand for a byte.
The result tells how many characters it is long. -/
def readTagTail (isVerbatim : Bool) (fuel : Nat) (bytes : ByteArray) (length : Nat)
    (r : List Char) : Option (ByteArray × Nat) :=
  match fuel with
  | 0 => some (bytes, length)
  | fuel + 1 =>
    match r with
    | '%' :: a :: b :: r => do
      let n ← hexNumber? [a, b]
      readTagTail isVerbatim fuel (bytes.push n.toUInt8) (length + 3) r
    | '%' :: _ => none
    | c :: r =>
      if isTagCharacter c || (isVerbatim && c ∈ [',', '[', ']']) then
        readTagTail isVerbatim fuel (bytes ++ (String.singleton c).toUTF8) (length + 1) r
      else some (bytes, length)
    | [] => some (bytes, length)

/-- Reads a number of a version and tells how many digits it has. -/
def versionNumber? (r : List Char) : Option (Nat × Nat) :=
  let digits := r.takeWhile Char.isDigit
  if digits.isEmpty || 9 < digits.length then none
  else (String.ofList digits).toNat?.map fun n => (n, digits.length)

/-- Reads what the directive of a name says, from its first word on. The result tells how many
characters it is long. -/
def readDirective (name : String) (r : List Char) : Option (Token × Nat) :=
  if name = "YAML" then do
    let (major, n) ← versionNumber? r
    let r := r.drop n
    if r.head? ≠ some '.' then none
    let (minor, k) ← versionNumber? (r.drop 1)
    return (.version major minor, n + 1 + k)
  else if name = "TAG" then do
    if r.head? ≠ some '!' then none
    let word := (r.drop 1).takeWhile isNameCharacter
    let r := r.drop (word.length + 1)
    let ending := r.takeWhile (· == '!') |>.take 1
    if ending.isEmpty && !word.isEmpty then none
    let r := r.drop ending.length
    let blanks := (r.takeWhile isBlank).length
    if blanks = 0 then none
    let (bytes, n) ← readTagTail true r.length ByteArray.empty 0 (r.drop blanks)
    if n = 0 || !blankOrEnd (r.drop (blanks + n)) then none
    return (.handle (String.ofList ('!' :: word ++ ending)) (← String.fromUTF8? bytes),
      1 + word.length + ending.length + blanks + n)
  else none

/-- A directive, which takes a line of its own. -/
def addDirective (s : Layout) : Option Layout := do
  let s := (← (s.dedentTo none).dropKey).allowKey false
  let name := (s.cursor.rest.drop 1).takeWhile isNameCharacter
  let c := s.cursor.skip (name.length + 1)
  if !blankOrEnd c.rest then none
  let c := c.skipWhile isBlank
  let (t, n) ← readDirective (String.ofList name) c.rest
  let c := (c.skip n).skipWhile isBlank
  let c := if c.rest.head? = some '#' then c.skipWhile fun x => !isBreak x else c
  if !breakOrEnd c.rest then none
  return { s.push t with cursor := c.skipBreak }

/-- The beginning of a flow collection. -/
def addFlowStart (s : Layout) (t : Token) : Option Layout := do
  let s ← s.saveKey
  return { ((s.allowKey true).push t).skip 1 with keys := none :: s.keys }

/-- The end of a flow collection. -/
def addFlowEnd (s : Layout) (t : Token) : Option Layout := do
  let s ← s.dropKey
  let keys := match s.keys with
    | _ :: k :: ks => k :: ks
    | ks => ks
  return { ((s.allowKey false).push t).skip 1 with keys := keys }

/-- A comma between the items of a flow collection. -/
def addFlowEntry (s : Layout) : Option Layout := do
  let s ← s.dropKey
  return ((s.allowKey true).push .flowEntry).skip 1

/-- The indicator of an item of an indented sequence. -/
def addBlockEntry (s : Layout) : Option Layout := do
  if !s.inFlow && !s.keyAllowed then none
  let s ← (s.indentTo s.cursor.column s.tokens.length .blockSequence).dropKey
  return ((s.allowKey true).push .blockEntry).skip 1

/-- The indicator of a key. -/
def addKey (s : Layout) : Option Layout := do
  if !s.inFlow && !s.keyAllowed then none
  let s ← (s.indentTo s.cursor.column s.tokens.length .blockMapping).dropKey
  return ((s.allowKey !s.inFlow).push .key).skip 1

/-- The indicator of a value, which makes a key of what may be one. -/
def addValue (s : Layout) : Option Layout :=
  match s.keys with
  | some k :: ks =>
    let s := { s with keys := none :: ks }
    let s := (s.insertAt k.number [.key]).indentTo k.place.column k.number .blockMapping
    some (((s.allowKey false).push .value).skip 1)
  | _ => do
    if !s.inFlow && !s.keyAllowed then none
    let s := s.indentTo s.cursor.column s.tokens.length .blockMapping
    return ((s.allowKey !s.inFlow).push .value).skip 1

/-- The name of a value, after its indicator. -/
def addName (s : Layout) (token : String → Token) : Option Layout := do
  let s := (← s.saveKey).allowKey false
  let r := s.cursor.rest.drop 1
  let name := r.takeWhile isNameCharacter
  let after := r.drop name.length
  let ends := blankOrEnd after
    || after.head?.any fun c => ['?', ':', ',', ']', '\x7d', '%', '@', '\x60'].contains c
  if name.isEmpty || !ends then none
  return (s.push (token (String.ofList name))).skip (name.length + 1)

/-- The handle and the tail of a tag, with its length, from its first exclamation mark. -/
def readTag (r : List Char) : Option (String × String × Nat) := do
  let tail (isVerbatim : Bool) (r : List Char) : Option (String × Nat) := do
    let (bytes, n) ← readTagTail isVerbatim r.length ByteArray.empty 0 r
    return (← String.fromUTF8? bytes, n)
  match r with
  | '!' :: '<' :: r =>
    let (t, n) ← tail true r
    if t.isEmpty || (r.drop n).head? ≠ some '>' then none
    return ("", t, n + 3)
  | _ =>
    let name := (r.drop 1).takeWhile isNameCharacter
    let afterName := r.drop (name.length + 1)
    match afterName with
    | '!' :: r =>
      let (t, n) ← tail false r
      if t.isEmpty then none
      return ("!" ++ String.ofList name ++ "!", t, name.length + 2 + n)
    | r =>
      let (t, n) ← tail false r
      let t := String.ofList name ++ t
      return (if t.isEmpty then ("", "!", 1) else ("!", t, name.length + 1 + n))

/-- A tag. -/
def addTag (s : Layout) : Option Layout := do
  let s := (← s.saveKey).allowKey false
  let (handle, tail, n) ← readTag s.cursor.rest
  let s := (s.push (.tag handle tail)).skip n
  if blankOrEnd s.cursor.rest || (s.inFlow && s.cursor.rest.head? == some ',') then return s
  else none

/-- A block scalar. -/
def addBlockScalar (s : Layout) (style : ScalarStyle) : Option Layout := do
  let s := (← s.dropKey).allowKey true
  let (text, c) ← readBlock (style == .folded) s.innerColumn s.cursor
  return { s.push (.scalar text style) with cursor := c }

/-- A quoted scalar. -/
def addQuoted (s : Layout) (single : Bool) : Option Layout := do
  let s := (← s.saveKey).allowKey false
  let (text, c) ← readQuoted single s.cursor
  return { s.push (.scalar text .quoted) with cursor := c }

/-- A plain scalar. After a line break a key may follow it. -/
def addPlain (s : Layout) : Option Layout := do
  let s := (← s.saveKey).allowKey false
  let (text, broken, c) ← readPlain s.inFlow s.innerColumn s.cursor
  return { (s.push (.scalar text .plain)).allowKey broken with cursor := c }

/-- Finds the next token. -/
def next (s : Layout) : Option Layout := do
  let s ← (s.skipSpace (s.cursor.rest.length + 1)).dropStaleKeys
  let s := s.dedentTo (some s.cursor.column)
  match s.cursor.rest with
  | [] => s.addTextEnd
  | x :: r =>
    if x = '%' ∧ s.cursor.column = 0 then s.addDirective
    else if s.cursor.atMark '-' then s.addDocumentMark .documentStart
    else if s.cursor.atMark '.' then s.addDocumentMark .documentEnd
    else if x = '[' then s.addFlowStart .flowSequence
    else if x = '\x7b' then s.addFlowStart .flowMapping
    else if x = ']' then s.addFlowEnd .flowSequenceEnd
    else if x = '\x7d' then s.addFlowEnd .flowMappingEnd
    else if x = ',' then s.addFlowEntry
    else if x = '-' ∧ blankOrEnd r then s.addBlockEntry
    else if x = '?' ∧ (s.inFlow ∨ blankOrEnd r) then s.addKey
    else if x = ':' ∧ (s.inFlow ∨ blankOrEnd r) then s.addValue
    else if x = '*' then s.addName .alias
    else if x = '&' then s.addName .anchor
    else if x = '!' then s.addTag
    else if x = '|' ∧ ¬s.inFlow then s.addBlockScalar .literal
    else if x = '>' ∧ ¬s.inFlow then s.addBlockScalar .folded
    else if x = '\'' then s.addQuoted true
    else if x = '"' then s.addQuoted false
    else if x ∈ ['-', '?', ':'] then
      if (x = '-' ∧ ¬(r.head?.map isBlank).getD false) ∨ (¬s.inFlow ∧ ¬blankOrEnd r) then s.addPlain
      else none
    else if isBlank x ∨ x ∈ ['#', '|', '>', '%', '@', '\x60'] then none
    else s.addPlain

/-- The tokens that are known when no more can be found: those before the first possible key. -/
def knownTokens (s : Layout) : List Token :=
  let s := s.dropStaleKeys.getD s
  let count := s.keys.foldl (fun n k? => (k?.map fun k => min n k.number).getD n) s.tokens.length
  s.tokens.reverse.take count

/-- Finds the tokens up to the end of the text or to where it is malformed. -/
def run (fuel : Nat) (s : Layout) : List Token :=
  match fuel with
  | 0 => s.knownTokens
  | fuel + 1 =>
    match s.next with
    | none => s.knownTokens
    | some s => if s.finished then s.tokens.reverse else run fuel s

end Layout

/-- The tokens of a text. Those of a malformed text do not end with the end of the text. -/
def tokens (text : String) : List Token :=
  if text.toList.all isAllowed then
    Layout.run (text.length + 2) { cursor := { rest := text.toList } }
  else []

end PolicyPack.Yaml
