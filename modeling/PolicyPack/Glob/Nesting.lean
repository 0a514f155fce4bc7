import PolicyPack.Glob.Pattern

/-!
# How deeply patterns nest

A pattern may nest so deep and no deeper. The pattern as a whole, a group, a choice between
branches, a branch of several parts, a class and a repetition each count as a level. Patterns of a
few plain forms are matched by comparing texts and are not looked at.
-/

namespace PolicyPack.Glob

/-- The number of levels that a pattern may have. -/
def nestingLimit : Nat := 250

/-- The number of parts that a piece is in the sequence that it belongs to. -/
def Piece.parts : Piece → Nat
  | .literal c => c.utf8Size
  | .trailing => 2
  | .alternates bs => if branchesBlank bs then 0 else 1
  | _ => 1

/-- Whether pieces are several parts together. -/
def areSeveral (ps : List Piece) : Bool := 1 < ps.foldl (fun n p => n + p.parts) 0

mutual

/-- The number of levels of a piece. -/
def Piece.levels : Piece → Nat
  | .literal _ => 0
  | .any | .trailing => 1
  | .run => 2
  | .leading | .between => 4
  | .oneOf _ ranges => if 1 < (ranges.flatMap byteRanges).length then 2 else 1
  | .alternates bs =>
    let choice := if 1 < (bs.filter fun b => !allBlank b).length then 1 else 0
    1 + choice + branchLevels bs

/-- The most levels of any of the pieces. -/
def mostLevels : List Piece → Nat
  | [] => 0
  | p :: ps => max p.levels (mostLevels ps)

/-- The most levels of any of the branches. -/
def branchLevels : List (List Piece) → Nat
  | [] => 0
  | b :: bs => max ((if areSeveral b then 1 else 0) + mostLevels b) (branchLevels bs)

end

/-- Whether a piece stands for one character only. -/
def Piece.isLiteral : Piece → Bool
  | .literal _ => true
  | _ => false

/-- Whether a piece is this character. -/
def Piece.isCharacter (c : Char) : Piece → Bool
  | .literal d => c == d
  | _ => false

/-- Whether pieces end in a point and other characters, with no slash among them. -/
def endsInExtension (ps : List Piece) : Bool :=
  let tail := ps.reverse.takeWhile fun p =>
    p.isLiteral && !p.isCharacter '.' && !p.isCharacter '/'
  (ps.reverse.drop tail.length).head?.any (Piece.isCharacter '.')

namespace Pattern

/-- Whether a pattern is matched by comparing texts: it is one text, at most with components before
it or with components after it, or any last component with an extension. -/
def isPlain (p : Pattern) : Bool :=
  match p.pieces with
  | [] => false
  | .leading :: .run :: .literal '.' :: r =>
    r.all fun q => q.isLiteral && !q.isCharacter '.' && !q.isCharacter '/'
  | .leading :: q :: r => (q :: r).all Piece.isLiteral
  | ps =>
    ps.all Piece.isLiteral ||
      (ps.getLast? matches some .trailing && ps.dropLast.all Piece.isLiteral)

/-- Whether a pattern nests deeper than it may. -/
def isTooDeep (p : Pattern) : Bool := !p.isPlain && nestingLimit < 1 + mostLevels p.pieces

/-- The number of the first pattern that nests too deep. One with a fixed extension stands alone, so
its number is zero; the others are numbered among themselves. -/
def tooDeep? (ps : List Pattern) : Option Nat :=
  let (fixed, general) := (ps.filter fun p => !p.isPlain).partition fun p =>
    endsInExtension p.pieces
  if fixed.any isTooDeep then some 0 else general.findIdx? isTooDeep

end Pattern

end PolicyPack.Glob
