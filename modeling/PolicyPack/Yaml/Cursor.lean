/-!
# Places in YAML text

A cursor is a place in a text: what is left of it, and the line and column it has come to. Five
kinds of line break exist; inside a value the first three are read as a line feed.
-/

namespace PolicyPack.Yaml

/-- Whether a character may stand in a document. -/
def isAllowed (c : Char) : Bool :=
  let n := c.toNat
  n == 0x09 || n == 0x0A || n == 0x0D || (0x20 ≤ n && n ≤ 0x7E) || n == 0x85
    || (0xA0 ≤ n && n ≤ 0xFFFD) || 0x10000 ≤ n

/-- Whether a character breaks the line. -/
def isBreak (c : Char) : Bool :=
  c == '\n' || c == '\r' || c == '\x85' || c == '\u2028' || c == '\u2029'

/-- Whether a character is a space or a tab. -/
def isBlank (c : Char) : Bool := c == ' ' || c == '\t'

/-- Whether a text begins with a blank or a line break, or is empty. -/
def blankOrEnd : List Char → Bool
  | [] => true
  | c :: _ => isBlank c || isBreak c

/-- Whether a text begins with a line break or is empty. -/
def breakOrEnd : List Char → Bool
  | [] => true
  | c :: _ => isBreak c

/-- A place in a text. -/
structure Cursor where
  /-- The text from here on. -/
  rest : List Char
  /-- How many bytes have been passed. -/
  index : Nat := 0
  /-- How many line breaks have been passed. -/
  line : Nat := 0
  /-- How many characters of the line have been passed. -/
  column : Nat := 0

namespace Cursor

/-- Where a cursor has come to after characters are passed. -/
def indexAfter (c : Cursor) (n : Nat) : Nat :=
  (c.rest.take n).foldl (fun index x => index + x.utf8Size) c.index

/-- Passes characters that are no line breaks. -/
def skip (c : Cursor) (n : Nat) : Cursor :=
  { c with rest := c.rest.drop n, index := c.indexAfter n, column := c.column + n }

/-- Passes a line break and tells how it reads inside a value. -/
def takeBreak (c : Cursor) : List Char × Cursor :=
  let next (n : Nat) : Cursor :=
    { rest := c.rest.drop n, index := c.indexAfter n, line := c.line + 1, column := 0 }
  match c.rest with
  | '\r' :: '\n' :: _ => (['\n'], next 2)
  | b :: _ =>
    if b = '\u2028' ∨ b = '\u2029' then ([b], next 1)
    else if isBreak b then (['\n'], next 1)
    else ([], c)
  | [] => ([], c)

/-- Passes a line break. -/
def skipBreak (c : Cursor) : Cursor := c.takeBreak.2

/-- Passes characters as long as a condition holds. -/
def skipWhile (p : Char → Bool) (c : Cursor) : Cursor := c.skip (c.rest.takeWhile p).length

/-- Whether the three characters begin a line and are followed by a blank or the end. -/
def atMark (m : Char) (c : Cursor) : Bool :=
  c.column == 0 && c.rest.take 3 == [m, m, m] && blankOrEnd (c.rest.drop 3)

/-- Whether a mark that begins or ends a document stands here. -/
def atDocumentMark (c : Cursor) : Bool := c.atMark '-' || c.atMark '.'

end Cursor

end PolicyPack.Yaml
