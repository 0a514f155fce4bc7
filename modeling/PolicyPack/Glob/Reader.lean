import PolicyPack.Glob.Pattern

/-!
# Reading glob patterns

The pieces of a pattern are collected in a draft that holds the branches of the groups that are
open. Two stars stand for whole components only where they are a component of the pattern
themselves.
-/

namespace PolicyPack.Glob

/-- What can be wrong with a pattern. -/
inductive Fault where
  /-- A class without its closing bracket. -/
  | unclosedClass
  /-- A range whose second character comes before its first. -/
  | reversedRange (first second : Char)
  /-- A backslash at the end. -/
  | danglingEscape
  /-- A group without its closing brace. -/
  | unclosedGroup
  /-- A closing brace without a group. -/
  | unopenedGroup
deriving DecidableEq, Repr

/-- The wording of the fault. -/
def Fault.message : Fault → String
  | .unclosedClass => "unclosed character class; missing ']'"
  | .reversedRange a b => "invalid range; '" ++ a.toString ++ "' > '" ++ b.toString ++ "'"
  | .danglingEscape => "dangling '\\'"
  | .unclosedGroup =>
    "unclosed alternate group; missing '\x7d' (maybe escape '\x7b' with '[\x7b]'?)"
  | .unopenedGroup =>
    "unopened alternate group; missing '\x7b' (maybe escape '\x7d' with '[\x7d]'?)"

/-- The pieces read so far: the branches of the open groups, the innermost and latest first, each
with its latest piece first, and under them the pieces outside all groups. -/
structure Draft where
  branches : List (List Piece)
  /-- How many branches there were when each open group began, the innermost group first. -/
  groups : List Nat

namespace Draft

/-- Nothing read. -/
def blank : Draft := ⟨[[]], []⟩

/-- Adds a piece to the current branch. -/
def push (d : Draft) (p : Piece) : Draft :=
  match d.branches with
  | [] => { d with branches := [[p]] }
  | b :: bs => { d with branches := (p :: b) :: bs }

/-- The latest piece of the current branch. -/
def last? (d : Draft) : Option Piece := (d.branches.headD []).head?

/-- Puts a piece in the place of the latest one. -/
def replaceLast (d : Draft) (p : Piece) : Draft :=
  match d.branches with
  | [] => d
  | b :: bs => { d with branches := (p :: b.drop 1) :: bs }

/-- Opens a group. -/
def openGroup (d : Draft) : Draft := ⟨[] :: d.branches, d.branches.length :: d.groups⟩

/-- Begins another branch of the current group. -/
def nextBranch (d : Draft) : Draft := { d with branches := [] :: d.branches }

/-- Closes the current group. -/
def closeGroup (d : Draft) : Except Fault Draft :=
  match d.groups with
  | [] => .error .unopenedGroup
  | n :: gs =>
    let inner := d.branches.take (d.branches.length - n)
    let outer := d.branches.drop (d.branches.length - n)
    .ok (push ⟨outer, gs⟩ (.alternates (inner.reverse.map List.reverse)))

/-- The pieces of a pattern that ends here. -/
def finish (d : Draft) : Except Fault (List Piece) :=
  match d.branches with
  | [b] => .ok b.reverse
  | _ => .error .unclosedGroup

end Draft

/-- Ends the range that the latest member of a class begins, the latest member first. -/
def extendRange (ranges : List (Char × Char)) (c : Char) : Except Fault (List (Char × Char)) :=
  match ranges with
  | [] => .ok [(c, c)]
  | (a, _) :: r => if c < a then .error (.reversedRange a c) else .ok ((a, c) :: r)

/-- Reads the members of a class up to its closing bracket. A bracket or a dash in first place, and
a dash in last place, stand for themselves; `dash` tells that a range awaits its second end. -/
def classMembers (first dash : Bool) (ranges : List (Char × Char)) :
    List Char → Except Fault (List (Char × Char) × List Char)
  | [] => .error .unclosedClass
  | ']' :: r =>
    if first then classMembers false dash ((']', ']') :: ranges) r
    else .ok ((if dash then ('-', '-') :: ranges else ranges).reverse, r)
  | '-' :: r =>
    if first then classMembers false dash (('-', '-') :: ranges) r
    else if dash then do
      let ranges ← extendRange ranges '-'
      classMembers false false ranges r
    else classMembers false true ranges r
  | c :: r =>
    if dash then do
      let ranges ← extendRange ranges c
      classMembers false false ranges r
    else classMembers false false ((c, c) :: ranges) r

/-- Reads a class after its opening bracket. -/
def readClass (s : List Char) : Except Fault (Piece × List Char) := do
  let (negated, s) := match s with
    | '!' :: r => (true, r)
    | '^' :: r => (true, r)
    | r => (false, r)
  let (ranges, r) ← classMembers true false [] s
  return (.oneOf negated ranges, r)

/-- Adds two stars whose pieces say no more than one. -/
def plainStars (d : Draft) : Draft := (d.push .run).push .run

/-- Adds the piece for two stars; `before` is the character before them, and `s` what follows. Where
they are a whole component the slash after them is used up. -/
def doubleStar (d : Draft) (before : Option Char) (s : List Char) : Draft × List Char :=
  let grouped := 2 ≤ d.branches.length
  let joins (suffix : Bool) : Draft :=
    match d.last? with
    | some .leading => d
    | some .trailing => d
    | _ => d.replaceLast (if suffix then .trailing else .between)
  if d.last?.isNone then
    match s with
    | [] => (d.push .leading, [])
    | '/' :: r => (d.push .leading, r)
    | s => (plainStars d, s)
  else if before ≠ some '/' ∧ (!grouped ∨ (before ≠ some ',' ∧ before ≠ some '\x7b')) then
    (plainStars d, s)
  else
    match s with
    | [] => (joins true, [])
    | '/' :: r => (joins false, r)
    | c :: r =>
      if grouped && (c == ',' || c == '\x7d') then (joins true, c :: r) else (plainStars d, c :: r)

/-- The character before what is left of a pattern after some of it was used up. -/
def lastUsed (before : Option Char) (s rest : List Char) : Option Char :=
  ((s.take (s.length - rest.length)).getLast?).or before

/-- Reads the pieces; every step uses up a character, so `fuel` steps suffice for a text that is
shorter. -/
def readPieces (fuel : Nat) (d : Draft) (before : Option Char) (s : List Char) :
    Except Fault (List Piece) :=
  match fuel with
  | 0 => d.finish
  | fuel + 1 =>
    match s with
    | [] => d.finish
    | '?' :: r => readPieces fuel (d.push .any) (some '?') r
    | '*' :: '*' :: r =>
      let (e, rest) := doubleStar d before r
      readPieces fuel e (lastUsed (some '*') r rest) rest
    | '*' :: r => readPieces fuel (d.push .run) (some '*') r
    | '[' :: r => do
      let (p, rest) ← readClass r
      readPieces fuel (d.push p) (some ']') rest
    | '\x7b' :: r => readPieces fuel d.openGroup (some '\x7b') r
    | '\x7d' :: r => do
      let e ← d.closeGroup
      readPieces fuel e (some '\x7d') r
    | ',' :: r =>
      let e := if d.groups.isEmpty then d.push (.literal ',') else d.nextBranch
      readPieces fuel e (some ',') r
    | ['\\'] => .error .danglingEscape
    | '\\' :: c :: r => readPieces fuel (d.push (.literal c)) (some c) r
    | c :: r => readPieces fuel (d.push (.literal c)) (some c) r

/-- Reads a pattern. -/
def Pattern.ofText (text : String) : Except Fault Pattern := do
  let pieces ← readPieces (text.toList.length + 1) .blank none text.toList
  return ⟨text, pieces⟩

end PolicyPack.Glob
