/-!
# Bytes as text

Bytes are read as a sequence of pieces: a character, an ill-formed run that no character can begin
with, or a character that the end of the bytes cuts off. A strict reading stops at the first piece
that is not a character, and a lenient one writes the replacement character in its place.
-/

namespace PolicyPack.Text

/-- One step of reading bytes as text. -/
inductive Piece where
  /-- A well-formed character. -/
  | char (c : Char)
  /-- A run of bytes that begins no character. -/
  | illFormed (length : Nat)
  /-- The last bytes, which begin a character and do not end it. -/
  | cut
deriving DecidableEq, Repr

/-- What the first byte of a character announces: how many bytes follow, the range of the first of
them, and the bits it contributes. -/
structure Lead where
  /-- The number of bytes that follow. -/
  following : Nat
  /-- The least value of the next byte. -/
  least : UInt8
  /-- The greatest value of the next byte. -/
  greatest : UInt8
  /-- The bits of the code point in the first byte. -/
  bits : Nat

/-- The announcement of a byte that is not ASCII. The bounds of the next byte rule out encodings
longer than needed, surrogates, and code points past the last. -/
def lead? (b : UInt8) : Option Lead :=
  if 0xc2 ≤ b && b ≤ 0xdf then some ⟨1, 0x80, 0xbf, b.toNat - 0xc0⟩
  else if b == 0xe0 then some ⟨2, 0xa0, 0xbf, 0⟩
  else if b == 0xed then some ⟨2, 0x80, 0x9f, 0xd⟩
  else if 0xe1 ≤ b && b ≤ 0xef then some ⟨2, 0x80, 0xbf, b.toNat - 0xe0⟩
  else if b == 0xf0 then some ⟨3, 0x90, 0xbf, 0⟩
  else if 0xf1 ≤ b && b ≤ 0xf3 then some ⟨3, 0x80, 0xbf, b.toNat - 0xf0⟩
  else if b == 0xf4 then some ⟨3, 0x80, 0x8f, 4⟩
  else none

/-- Reads the bytes that follow a first byte, `taken` of the character being read so far. -/
def continuation (least greatest : UInt8) (bits taken : Nat) :
    Nat → List UInt8 → Piece × List UInt8
  | 0, r => (.char (Char.ofNat bits), r)
  | _ + 1, [] => (.cut, [])
  | k + 1, c :: r =>
    if least ≤ c && c ≤ greatest then
      continuation 0x80 0xbf (bits * 64 + (c.toNat - 0x80)) (taken + 1) k r
    else (.illFormed taken, c :: r)

/-- The first piece of a nonempty run of bytes, and what is left. -/
def firstPiece (b : UInt8) (r : List UInt8) : Piece × List UInt8 :=
  if b < 0x80 then (.char (Char.ofNat b.toNat), r)
  else
    match lead? b with
    | none => (.illFormed 1, r)
    | some l => continuation l.least l.greatest l.bits 1 l.following r

theorem length_continuation_le (least greatest : UInt8) (bits taken k : Nat) (r : List UInt8) :
    (continuation least greatest bits taken k r).2.length ≤ r.length := by
  induction k generalizing least greatest bits taken r with
  | zero => simp [continuation]
  | succ k ih =>
    cases r with
    | nil => simp [continuation]
    | cons c r =>
      simp only [continuation]
      split
      · exact Nat.le_trans (ih ..) (by simp)
      · simp

theorem length_firstPiece_le (b : UInt8) (r : List UInt8) :
    (firstPiece b r).2.length ≤ r.length := by
  simp only [firstPiece]
  split
  · simp
  · split
    · simp
    · exact length_continuation_le ..

/-- The pieces of the bytes, in order. -/
def pieces : List UInt8 → List Piece
  | [] => []
  | b :: r => (firstPiece b r).1 :: pieces (firstPiece b r).2
termination_by bs => bs.length
decreasing_by
  have := length_firstPiece_le b r
  simp only [List.length_cons]
  omega

/-- Where bytes stop being text: the position of the first byte that belongs to no character, and
the length of the ill-formed run, which is absent when the end cuts a character off. -/
structure Utf8Fault where
  /-- The number of bytes before the fault. -/
  index : Nat
  /-- The length of the ill-formed run. -/
  length : Option Nat
deriving DecidableEq, Repr

/-- The wording of the fault. -/
def Utf8Fault.message (f : Utf8Fault) : String :=
  match f.length with
  | some n => s!"invalid utf-8 sequence of {n} bytes from index {f.index}"
  | none => s!"incomplete utf-8 byte sequence from index {f.index}"

/-- Reads pieces strictly, `index` bytes into the text. -/
def charsOfPieces (index : Nat) : List Piece → Except Utf8Fault (List Char)
  | [] => .ok []
  | .char c :: r => return c :: (← charsOfPieces (index + c.utf8Size) r)
  | .illFormed n :: _ => .error ⟨index, some n⟩
  | .cut :: _ => .error ⟨index, none⟩

/-- The text that the bytes encode, or the first fault. -/
def ofUtf8 (bytes : ByteArray) : Except Utf8Fault String :=
  match String.fromUTF8? bytes with
  | some s => .ok s
  | none => (charsOfPieces 0 (pieces bytes.toList)).map String.ofList

/-- The character that a piece stands for in a lenient reading. -/
def Piece.toChar : Piece → Char
  | .char c => c
  | _ => '\ufffd'

/-- The text of the bytes, with the replacement character for every piece that is none. -/
def ofUtf8Lenient (bytes : ByteArray) : String :=
  String.ofList ((pieces bytes.toList).map Piece.toChar)

end PolicyPack.Text
