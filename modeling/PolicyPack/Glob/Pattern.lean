/-!
# Glob patterns

A pattern is a sequence of pieces, and it matches a name when the pieces, one after the other, use
up all of its bytes. The meaning of a piece is `advance`: it takes the places in the name that can
be reached before the piece to those that can be reached after it, all of them at once.
-/

namespace PolicyPack.Glob

/-- A piece of a pattern. -/
inductive Piece where
  /-- A character for itself. -/
  | literal (c : Char)
  /-- One byte other than a slash. -/
  | any
  /-- Any bytes other than slashes. -/
  | run
  /-- Whole components at the beginning, or nothing. -/
  | leading
  /-- Whole components at the end. -/
  | trailing
  /-- Whole components in between, or nothing. -/
  | between
  /-- One byte in, or not in, the ranges of characters. -/
  | oneOf (negated : Bool) (ranges : List (Char × Char))
  /-- One of several sequences. -/
  | alternates (branches : List (List Piece))
deriving Repr, Inhabited

/-- The byte of the slash. -/
def slash : UInt8 := 0x2f

/-- The ranges of bytes that a range of characters covers: the encodings of its ends, the last byte
of the first joined with the first byte of the second. -/
def byteRanges (r : Char × Char) : List (UInt8 × UInt8) :=
  let a := String.utf8EncodeChar r.1
  let b := String.utf8EncodeChar r.2
  if r.1 = r.2 then a.map fun x => (x, x)
  else
    (a.dropLast.map fun x => (x, x)) ++ [(a.getLastD 0, b.headD 0)]
      ++ (b.drop 1).map fun x => (x, x)

/-- Whether a byte lies in one of the ranges of characters. -/
def inRanges (ranges : List (Char × Char)) (x : UInt8) : Bool :=
  (ranges.flatMap byteRanges).any fun r => r.1 ≤ x && x ≤ r.2

/-! ### Places in a name -/

/-- Which places in a name can be reached: that before its first byte, that before its second, and
so on, and last the one after all of its bytes. -/
abbrev Reach := List Bool

/-- The place before the first byte, and no other. -/
def atStart (s : List UInt8) : Reach := true :: s.map fun _ => false

/-- The places that one or the other reaches. -/
def Reach.union (m n : Reach) : Reach := List.zipWith (· || ·) m n

/-- Passes one byte that is allowed. -/
def passByte (allowed : UInt8 → Bool) (s : List UInt8) (m : Reach) : Reach :=
  false :: List.zipWith (fun x here => here && allowed x) s m

/-- Passes any number of bytes other than slashes, the place before them being `reached` or not. -/
def passName (reached : Bool) : List UInt8 → Reach → Reach
  | x :: s, here :: m =>
    (reached || here) :: passName ((reached || here) && x != slash) s m
  | _, m => m.map fun here => reached || here

/-- Passes any number of whole components; `reached` tells whether some place before is, and
`isBetween` whether a slash stands right before. -/
def passComponents (reached isBetween : Bool) : List UInt8 → Reach → Reach
  | x :: s, here :: m =>
    (here || (reached && isBetween)) :: passComponents (reached || here) (x == slash) s m
  | _, m => m.map fun here => here || (reached && isBetween)

/-- Passes any number of bytes. -/
def passAll (reached : Bool) : Reach → Reach
  | [] => []
  | here :: m => (reached || here) :: passAll (reached || here) m

/-! ### Pieces -/

mutual

/-- Whether the piece is a choice between nothing and nothing, which matches only the empty text. -/
def Piece.isBlank : Piece → Bool
  | .alternates bs => branchesBlank bs
  | _ => false

/-- Whether every piece is blank. -/
def allBlank : List Piece → Bool
  | [] => true
  | p :: ps => p.isBlank && allBlank ps

/-- Whether every branch is blank. -/
def branchesBlank : List (List Piece) → Bool
  | [] => true
  | b :: bs => allBlank b && branchesBlank bs

end

mutual

/-- The places in a name that can be reached after a piece. -/
def advance (s : List UInt8) (m : Reach) : Piece → Reach
  | .literal c => (String.utf8EncodeChar c).foldl (fun m b => passByte (· == b) s m) m
  | .any => passByte (· != slash) s m
  | .run => passName false s m
  | .leading => passComponents false false s m
  | .trailing => passAll false (passByte (· == slash) s m)
  | .between => passComponents false false s (passByte (· == slash) s m)
  | .oneOf negated rs => passByte (fun x => inRanges rs x != negated) s m
  | .alternates bs => if branchesBlank bs then m else advanceBranches s m bs

/-- The places that can be reached after a sequence of pieces. -/
def advanceAll (s : List UInt8) (m : Reach) : List Piece → Reach
  | [] => m
  | p :: ps => advanceAll s (advance s m p) ps

/-- The places that can be reached after one of the branches. A branch that says nothing does not
count. -/
def advanceBranches (s : List UInt8) (m : Reach) : List (List Piece) → Reach
  | [] => m.map fun _ => false
  | b :: bs =>
    if allBlank b then advanceBranches s m bs
    else (advanceAll s m b).union (advanceBranches s m bs)

end

/-- A pattern: its text and the pieces it stands for. -/
structure Pattern where
  /-- The text that was read. -/
  text : String
  pieces : List Piece

/-- Whether the pattern matches all of the bytes. A pattern that is nothing but leading components
matches every name. -/
def Pattern.matchesBytes (p : Pattern) (s : List UInt8) : Bool :=
  match p.pieces with
  | [.leading] => true
  | ps => (advanceAll s (atStart s) ps).getLast? == some true

/-- Whether the pattern matches the whole name. -/
def Pattern.matches (p : Pattern) (name : String) : Bool :=
  p.matchesBytes name.toUTF8.toList

end PolicyPack.Glob
