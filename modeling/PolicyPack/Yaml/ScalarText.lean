import PolicyPack.Yaml.Cursor

/-!
# The text of scalars

Quoted and plain scalars may go on over several lines, which are folded: a single break becomes a
space, and of several breaks the first is dropped. Block scalars keep their lines, or fold those
that are not indented further, and say themselves what becomes of the breaks at the end. A reader
returns `none` for malformed text.
-/

namespace PolicyPack.Yaml

/-! ### Gaps -/

/-- The blanks and breaks between two words. -/
structure Gap where
  /-- The blanks before the first break. -/
  blanks : List Char := []
  /-- Whether there is a break. -/
  hasBreak : Bool := false
  /-- The first break. -/
  first : List Char := []
  /-- The further breaks. -/
  others : List Char := []

/-- What breaks become when lines are folded. -/
def foldBreaks (first others : List Char) : List Char :=
  if first = ['\n'] then (if others = [] then [' '] else others) else first ++ others

/-- What a gap becomes. -/
def Gap.fold (g : Gap) : List Char :=
  if g.hasBreak then foldBreaks g.first g.others else g.blanks

/-- Reads a gap. A tab that stands for indentation, left of the given column, is malformed. -/
def readGap (indent fuel : Nat) (g : Gap) (c : Cursor) : Option (Gap × Cursor) :=
  match fuel with
  | 0 => some (g, c)
  | fuel + 1 =>
    match c.rest with
    | [] => some (g, c)
    | x :: _ =>
      if isBlank x then
        if g.hasBreak then
          if x = '\t' ∧ c.column < indent then none else readGap indent fuel g (c.skip 1)
        else readGap indent fuel { g with blanks := g.blanks ++ [x] } (c.skip 1)
      else if isBreak x then
        let (b, c) := c.takeBreak
        if g.hasBreak then readGap indent fuel { g with others := g.others ++ b } c
        else readGap indent fuel { g with hasBreak := true, first := b } c
      else some (g, c)

/-! ### Quoted scalars -/

/-- The number that hexadecimal digits stand for. -/
def hexNumber? (digits : List Char) : Option Nat :=
  digits.foldl (fun n? d =>
    n?.bind fun n =>
      if d.isDigit then some (16 * n + (d.toNat - '0'.toNat))
      else if 'a' ≤ d ∧ d ≤ 'f' then some (16 * n + (d.toNat - 'a'.toNat + 10))
      else if 'A' ≤ d ∧ d ≤ 'F' then some (16 * n + (d.toNat - 'A'.toNat + 10))
      else none) (some 0)

/-- The characters that an escape of one letter stands for. -/
def namedEscapes : List (Char × Char) := [
  ('0', '\x00'), ('a', '\x07'), ('b', '\x08'), ('t', '\t'), ('\t', '\t'), ('n', '\n'),
  ('v', '\x0b'), ('f', '\x0c'), ('r', '\r'), ('e', '\x1b'), (' ', ' '), ('"', '"'), ('/', '/'),
  ('\\', '\\'),
  ('N', '\x85'), ('_', '\xa0'), ('L', '\u2028'), ('P', '\u2029')]

/-- The numbers of hexadecimal digits that escapes have. -/
def numericEscapes : List (Char × Nat) := [('x', 2), ('u', 4), ('U', 8)]

/-- Reads an escape after its backslash. -/
def readEscape (c : Cursor) : Option (Char × Cursor) :=
  match c.rest with
  | [] => none
  | x :: r =>
    match namedEscapes.lookup x with
    | some y => some (y, c.skip 1)
    | none => do
      let n ← numericEscapes.lookup x
      let digits := r.take n
      let code ← hexNumber? digits
      if digits.length = n ∧ code.isValidChar then return (Char.ofNat code, c.skip (n + 1))
      else none

/-- Reads the characters up to the next gap or the closing quote, putting them before those in
`done`, last first. Tells whether a break was escaped at the end. -/
def readQuotedWord (single : Bool) (fuel : Nat) (done : List Char) (c : Cursor) :
    Option (List Char × Bool × Cursor) :=
  match fuel with
  | 0 => some (done, false, c)
  | fuel + 1 =>
    if blankOrEnd c.rest then some (done, false, c)
    else if single then
      match c.rest with
      | '\'' :: '\'' :: _ => readQuotedWord single fuel ('\'' :: done) (c.skip 2)
      | '\'' :: _ => some (done, false, c)
      | x :: _ => readQuotedWord single fuel (x :: done) (c.skip 1)
      | [] => some (done, false, c)
    else
      match c.rest with
      | '"' :: _ => some (done, false, c)
      | '\\' :: r =>
        match r with
        | [] => none
        | b :: _ =>
          if isBreak b then some (done, true, (c.skip 1).skipBreak)
          else
            match readEscape (c.skip 1) with
            | some (x, c) => readQuotedWord single fuel (x :: done) c
            | none => none
      | x :: _ => readQuotedWord single fuel (x :: done) (c.skip 1)
      | [] => some (done, false, c)

/-- Reads what is left of a quoted scalar, its characters so far being in `done`, last first. -/
def readQuotedRest (single : Bool) (fuel : Nat) (done : List Char) (c : Cursor) :
    Option (String × Cursor) :=
  match fuel with
  | 0 => none
  | fuel + 1 => do
    if c.atDocumentMark || c.rest.isEmpty then none
    let (done, joined, c) ← readQuotedWord single c.rest.length done c
    if c.rest.head? = some (if single then '\'' else '"') then
      return (String.ofList done.reverse, c.skip 1)
    let (g, c) ← readGap 0 c.rest.length { hasBreak := joined } c
    readQuotedRest single fuel (g.fold.reverse ++ done) c

/-- Reads a quoted scalar from its opening quote. -/
def readQuoted (single : Bool) (c : Cursor) : Option (String × Cursor) :=
  readQuotedRest single (c.rest.length + 1) [] (c.skip 1)

/-! ### Plain scalars -/

/-- Whether a plain scalar ends before the text. In a flow collection the brackets and the comma end
it as well. -/
def endsPlain (inFlow : Bool) : List Char → Bool
  | [] => true
  | ':' :: r => blankOrEnd r
  | x :: _ => inFlow && x ∈ [',', '[', ']', '\x7b', '\x7d']

/-- Whether a colon stands where a flow collection does not allow one. -/
def strayColon (inFlow : Bool) : List Char → Bool
  | ':' :: x :: _ => inFlow && x ∈ [',', '?', '[', ']', '\x7b', '\x7d']
  | _ => false

/-- Reads the characters up to the next gap or the end of the scalar, putting them before those in
`done`, last first, after the gap that came before them. -/
def readPlainWord (inFlow : Bool) (fuel : Nat) (gap : Gap) (done : List Char) (c : Cursor) :
    Option (List Char × Gap × Cursor) :=
  match fuel with
  | 0 => some (done, gap, c)
  | fuel + 1 =>
    if blankOrEnd c.rest then some (done, gap, c)
    else if strayColon inFlow c.rest then none
    else if endsPlain inFlow c.rest then some (done, gap, c)
    else
      match c.rest with
      | [] => some (done, gap, c)
      | x :: _ => readPlainWord inFlow fuel {} (x :: (gap.fold.reverse ++ done)) (c.skip 1)

/-- Reads what is left of a plain scalar. The result tells whether the gap before the end has a
break. -/
def readPlainRest (inFlow : Bool) (indent fuel : Nat) (gap : Gap) (done : List Char) (c : Cursor) :
    Option (String × Bool × Cursor) :=
  let finish (gap : Gap) (done : List Char) (c : Cursor) : Option (String × Bool × Cursor) :=
    some (String.ofList done.reverse, gap.hasBreak, c)
  match fuel with
  | 0 => finish gap done c
  | fuel + 1 => do
    if c.atDocumentMark || c.rest.head? = some '#' then finish gap done c
    else
      let (done, gap, c) ← readPlainWord inFlow c.rest.length gap done c
      match c.rest with
      | [] => finish gap done c
      | x :: _ =>
        if isBlank x || isBreak x then
          let (gap, c) ← readGap indent c.rest.length gap c
          if !inFlow && c.column < indent then finish gap done c
          else readPlainRest inFlow indent fuel gap done c
        else finish gap done c

/-- Reads a plain scalar whose further lines are indented to a column. -/
def readPlain (inFlow : Bool) (indent : Nat) (c : Cursor) : Option (String × Bool × Cursor) :=
  readPlainRest inFlow indent (c.rest.length + 1) {} [] c

/-! ### Block scalars -/

/-- What becomes of the breaks at the end of a block scalar. -/
inductive Chomping where
  /-- None is kept. -/
  | strip
  /-- The first is kept. -/
  | clip
  /-- All are kept. -/
  | keep
deriving DecidableEq

/-- The header of a block scalar. -/
structure BlockHeader where
  /-- What becomes of the breaks at the end. -/
  chomping : Chomping := .clip
  /-- The written indentation. -/
  increment : Option Nat := none

/-- The chomping that a character stands for. -/
def chomping? : Char → Option Chomping
  | '-' => some .strip
  | '+' => some .keep
  | _ => none

/-- Reads the marks of a header: chomping and indentation in any order. -/
def readHeaderMarks (c : Cursor) : Option (BlockHeader × Cursor) :=
  let digit? (c : Cursor) : Option Nat := c.rest.head?.bind fun x =>
    if x.isDigit then some (x.toNat - '0'.toNat) else none
  match c.rest.head?.bind chomping? with
  | some k =>
    let c := c.skip 1
    match digit? c with
    | some 0 => none
    | some n => some (⟨k, some n⟩, c.skip 1)
    | none => some (⟨k, none⟩, c)
  | none =>
    match digit? c with
    | some 0 => none
    | some n =>
      let c := c.skip 1
      match c.rest.head?.bind chomping? with
      | some k => some (⟨k, some n⟩, c.skip 1)
      | none => some (⟨.clip, some n⟩, c)
    | none => some ({}, c)

/-- Reads a header up to the end of its line. -/
def readHeader (c : Cursor) : Option (BlockHeader × Cursor) := do
  let (h, c) ← readHeaderMarks c
  let c := c.skipWhile isBlank
  let c := if c.rest.head? = some '#' then c.skipWhile fun x => !isBreak x else c
  if breakOrEnd c.rest then return (h, c.skipBreak) else none

/-- Passes the indentation of lines and the breaks of lines that have nothing else. Without a known
indentation the widest that is met is found; a tab in its place is malformed. -/
def readBlankLines (indent? : Option Nat) (fuel widest : Nat) (breaks : List Char) (c : Cursor) :
    Option (List Char × Nat × Cursor) :=
  match fuel with
  | 0 => some (breaks, widest, c)
  | fuel + 1 =>
    let spaces := (c.rest.takeWhile (· == ' ')).length
    let c := c.skip (match indent? with
      | some n => min spaces (n - c.column)
      | none => spaces)
    let widest := max widest c.column
    let inIndentation := match indent? with
      | some n => decide (c.column < n)
      | none => true
    match c.rest with
    | [] => some (breaks, widest, c)
    | x :: _ =>
      if inIndentation && x == '\t' then none
      else if isBreak x then
        let (b, c) := c.takeBreak
        readBlankLines indent? fuel widest (breaks ++ b) c
      else some (breaks, widest, c)

/-- The state of reading the lines of a block scalar. -/
structure BlockLines where
  /-- The characters read, last first. -/
  done : List Char := []
  /-- The break after the last line. -/
  lastBreak : List Char := []
  /-- The breaks of empty lines after that. -/
  trailing : List Char := []
  /-- Whether the last line began with a blank. -/
  blankBefore : Bool := false

/-- Reads the lines of a block scalar with a known indentation. -/
def readBlockLines (folded : Bool) (indent fuel : Nat) (s : BlockLines) (c : Cursor) :
    Option (BlockLines × Cursor) :=
  match fuel with
  | 0 => some (s, c)
  | fuel + 1 =>
    if c.column ≠ indent ∨ c.rest.isEmpty then some (s, c)
    else do
      let startsBlank := (c.rest.head?.map isBlank).getD false
      let joins := folded && s.lastBreak == ['\n'] && !s.blankBefore && !startsBlank
      let between :=
        if joins then (if s.trailing = [] then [' '] else s.trailing) else s.lastBreak ++ s.trailing
      let line := c.rest.takeWhile fun x => !isBreak x
      let (b, c) := (c.skip line.length).takeBreak
      let (trailing, _, c) ← readBlankLines (some indent) (c.rest.length + 1) 0 [] c
      readBlockLines folded indent fuel
        ⟨line.reverse ++ (between.reverse ++ s.done), b, trailing, startsBlank⟩ c

/-- Reads a block scalar from its indicator. The indentation of what is around it is one less than
`base`. -/
def readBlock (folded : Bool) (base : Nat) (c : Cursor) : Option (String × Cursor) := do
  let (h, c) ← readHeader (c.skip 1)
  let fixed? := h.increment.map fun n => (base - 1) + n
  let (trailing, widest, c) ← readBlankLines fixed? (c.rest.length + 1) 0 [] c
  let indent := fixed?.getD (max widest (max base 1))
  let (s, c) ← readBlockLines folded indent (c.rest.length + 1) { trailing := trailing } c
  let ending := match h.chomping with
    | .strip => []
    | .clip => s.lastBreak
    | .keep => s.lastBreak ++ s.trailing
  return (String.ofList (s.done.reverse ++ ending), c)

end PolicyPack.Yaml
