import PolicyPack.Proofs.Text.Utf8

/-!
# Lenient reading

A lenient reading takes the encoding of a text back to the text: each character is read from the
bytes that encode it, so no byte is replaced.
-/

namespace PolicyPack.Text

/-! ### First bytes -/

/-- A byte announces that others follow, of which the first may be `y`. -/
structure Announces (x y : UInt8) (following bits : Nat) (l : Lead) : Prop where
  lead : lead? x = some l
  following : l.following = following
  bits : l.bits = bits
  least : l.least.toNat ≤ y.toNat
  greatest : y.toNat ≤ l.greatest.toNat

variable {x y : UInt8}

theorem exists_announces_one (hx : 0xc2 ≤ x.toNat) (hx' : x.toNat ≤ 0xdf)
    (hy : 0x80 ≤ y.toNat) (hy' : y.toNat ≤ 0xbf) : ∃ l, Announces x y 1 (x.toNat - 0xc0) l := by
  have hlead : lead? x = some ⟨1, 0x80, 0xbf, x.toNat - 0xc0⟩ := by
    rw [lead?, if_pos (by simpa [UInt8.le_iff_toNat_le] using And.intro hx hx')]
  exact ⟨_, hlead, rfl, rfl, hy, hy'⟩

theorem exists_announces_two (hx : 0xe0 ≤ x.toNat) (hx' : x.toNat ≤ 0xef) (hy : 0x80 ≤ y.toNat)
    (hy' : y.toNat ≤ 0xbf) (hleast : x.toNat = 0xe0 → 0xa0 ≤ y.toNat)
    (hgreatest : x.toNat = 0xed → y.toNat ≤ 0x9f) :
    ∃ l, Announces x y 2 (x.toNat - 0xe0) l := by
  have hlead : lead? x = some (if x.toNat = 0xe0 then ⟨2, 0xa0, 0xbf, 0⟩
      else if x.toNat = 0xed then ⟨2, 0x80, 0x9f, 0xd⟩ else ⟨2, 0x80, 0xbf, x.toNat - 0xe0⟩) := by
    simp only [lead?, Bool.and_eq_true, decide_eq_true_eq, beq_iff_eq, UInt8.le_iff_toNat_le,
      ← UInt8.toNat_inj, UInt8.reduceToNat]
    rw [if_neg (by omega)]
    split
    · rfl
    split
    · rfl
    · rw [if_pos (by omega)]
  refine ⟨_, hlead, ?_, ?_, ?_, ?_⟩ <;> split <;> try split
  all_goals simp_all

theorem exists_announces_three (hx : 0xf0 ≤ x.toNat) (hx' : x.toNat ≤ 0xf4) (hy : 0x80 ≤ y.toNat)
    (hy' : y.toNat ≤ 0xbf) (hleast : x.toNat = 0xf0 → 0x90 ≤ y.toNat)
    (hgreatest : x.toNat = 0xf4 → y.toNat ≤ 0x8f) :
    ∃ l, Announces x y 3 (x.toNat - 0xf0) l := by
  have hlead : lead? x = some (if x.toNat = 0xf0 then ⟨3, 0x90, 0xbf, 0⟩
      else if x.toNat = 0xf4 then ⟨3, 0x80, 0x8f, 4⟩ else ⟨3, 0x80, 0xbf, x.toNat - 0xf0⟩) := by
    simp only [lead?, Bool.and_eq_true, decide_eq_true_eq, beq_iff_eq, UInt8.le_iff_toNat_le,
      ← UInt8.toNat_inj, UInt8.reduceToNat]
    rw [if_neg (by omega), if_neg (by omega), if_neg (by omega), if_neg (by omega)]
    split
    · rfl
    · split
      · rw [if_neg (by omega)]
      · rw [if_pos (by omega), if_pos (by omega)]
  refine ⟨_, hlead, ?_, ?_, ?_, ?_⟩ <;> split <;> try split
  all_goals simp_all

/-! ### One character -/

/-- A byte that may follow contributes its low bits. -/
theorem continuation_cons {least greatest : UInt8} {bits taken k : Nat} {r : List UInt8}
    (hleast : least.toNat ≤ y.toNat) (hgreatest : y.toNat ≤ greatest.toNat) :
    continuation least greatest bits taken (k + 1) (y :: r)
      = continuation 0x80 0xbf (bits * 64 + (y.toNat - 0x80)) (taken + 1) k r := by
  have hrange : (least ≤ y && y ≤ greatest) = true := by
    simpa [UInt8.le_iff_toNat_le] using And.intro hleast hgreatest
  rw [continuation, if_pos hrange]

theorem continuation_later {bits taken k : Nat} {r : List UInt8} (hy : 0x80 ≤ y.toNat)
    (hy' : y.toNat ≤ 0xbf) : continuation 0x80 0xbf bits taken (k + 1) (y :: r)
      = continuation 0x80 0xbf (bits * 64 + (y.toNat - 0x80)) (taken + 1) k r :=
  continuation_cons (show (0x80 : UInt8).toNat ≤ _ from hy) (show _ ≤ (0xbf : UInt8).toNat from hy')

theorem firstPiece_of_announces {following bits : Nat} {l : Lead} {r : List UInt8}
    (hx : 0x80 ≤ x.toNat) (h : Announces x y (following + 1) bits l) :
    firstPiece x (y :: r)
      = continuation 0x80 0xbf (bits * 64 + (y.toNat - 0x80)) 2 following r := by
  have hascii : ¬ x < 0x80 := by
    rw [UInt8.lt_iff_toNat_lt]
    exact Nat.not_lt.mpr hx
  rw [firstPiece, if_neg hascii, h.lead]
  simp only [h.following, h.bits]
  exact continuation_cons h.least h.greatest

theorem firstPiece_one (hx : x.toNat < 0x80) (r : List UInt8) :
    firstPiece x r = (.char (Char.ofNat x.toNat), r) := by
  rw [firstPiece, if_pos (UInt8.lt_iff_toNat_lt.mpr hx)]

theorem firstPiece_two (hx : 0xc2 ≤ x.toNat) (hx' : x.toNat ≤ 0xdf) (hy : 0x80 ≤ y.toNat)
    (hy' : y.toNat ≤ 0xbf) (r : List UInt8) :
    firstPiece x (y :: r)
      = (.char (Char.ofNat ((x.toNat - 0xc0) * 64 + (y.toNat - 0x80))), r) := by
  obtain ⟨l, hl⟩ := exists_announces_one hx hx' hy hy'
  rw [firstPiece_of_announces (by omega) hl, continuation]

theorem firstPiece_three {z : UInt8} (hx : 0xe0 ≤ x.toNat) (hx' : x.toNat ≤ 0xef)
    (hy : 0x80 ≤ y.toNat) (hy' : y.toNat ≤ 0xbf) (hz : 0x80 ≤ z.toNat) (hz' : z.toNat ≤ 0xbf)
    (hleast : x.toNat = 0xe0 → 0xa0 ≤ y.toNat) (hgreatest : x.toNat = 0xed → y.toNat ≤ 0x9f)
    (r : List UInt8) :
    firstPiece x (y :: z :: r) = (.char (Char.ofNat
      (((x.toNat - 0xe0) * 64 + (y.toNat - 0x80)) * 64 + (z.toNat - 0x80))), r) := by
  obtain ⟨l, hl⟩ := exists_announces_two hx hx' hy hy' hleast hgreatest
  rw [firstPiece_of_announces (by omega) hl, continuation_later hz hz', continuation]

theorem firstPiece_four {z w : UInt8} (hx : 0xf0 ≤ x.toNat) (hx' : x.toNat ≤ 0xf4)
    (hy : 0x80 ≤ y.toNat) (hy' : y.toNat ≤ 0xbf) (hz : 0x80 ≤ z.toNat) (hz' : z.toNat ≤ 0xbf)
    (hw : 0x80 ≤ w.toNat) (hw' : w.toNat ≤ 0xbf)
    (hleast : x.toNat = 0xf0 → 0x90 ≤ y.toNat) (hgreatest : x.toNat = 0xf4 → y.toNat ≤ 0x8f)
    (r : List UInt8) :
    firstPiece x (y :: z :: w :: r) = (.char (Char.ofNat
      ((((x.toNat - 0xf0) * 64 + (y.toNat - 0x80)) * 64 + (z.toNat - 0x80)) * 64
        + (w.toNat - 0x80))), r) := by
  obtain ⟨l, hl⟩ := exists_announces_three hx hx' hy hy' hleast hgreatest
  rw [firstPiece_of_announces (by omega) hl, continuation_later hz hz', continuation_later hw hw',
    continuation]

theorem toNat_ofNat_byte {n : Nat} (h : n < 0x100) : (UInt8.ofNat n).toNat = n :=
  UInt8.toNat_ofNat_of_lt' h

/-- The first piece of the encoding of a character is the character. -/
theorem firstPiece_utf8EncodeChar (c : Char) (rest : List UInt8) :
    ∃ x r, String.utf8EncodeChar c ++ rest = x :: r ∧ firstPiece x r = (.char c, rest) := by
  obtain ⟨v, hv⟩ : ∃ v, c.val.toNat = v := ⟨_, rfl⟩
  have hvalid : v.isValidChar := hv ▸ c.valid
  have hchar {n : Nat} (h : n = v) : (Piece.char (Char.ofNat n), rest) = (.char c, rest) := by
    rw [h, ← hv]
    exact congrArg (fun c => (Piece.char c, rest)) (Char.ofNat_toNat c)
  have hnext (n : Nat) : (UInt8.ofNat (n % 64 + 128)).toNat = n % 64 + 128 :=
    toNat_ofNat_byte (by omega)
  have hlow (n : Nat) : 0x80 ≤ (UInt8.ofNat (n % 64 + 128)).toNat := by
    rw [hnext]
    omega
  have hhigh (n : Nat) : (UInt8.ofNat (n % 64 + 128)).toNat ≤ 0xbf := by
    rw [hnext]
    omega
  unfold Nat.isValidChar at hvalid
  rw [String.utf8EncodeChar, hv]
  -- one case for each length, as the encoding has them
  split
  · have hx := toNat_ofNat_byte (n := v) (by omega)
    exact ⟨_, _, rfl, (firstPiece_one (by omega) _).trans (hchar hx)⟩
  split
  · have hx := toNat_ofNat_byte (n := v / 64 % 32 + 192) (by omega)
    refine ⟨_, _, rfl, (firstPiece_two (by omega) (by omega) (hlow _) (hhigh _) _).trans
      (hchar ?_)⟩
    rw [hx, hnext]
    omega
  split
  · have hx := toNat_ofNat_byte (n := v / 4096 % 16 + 224) (by omega)
    have hy := hnext (v / 64)
    refine ⟨_, _, rfl, (firstPiece_three (by omega) (by omega) (hlow _) (hhigh _) (hlow _)
      (hhigh _) (by omega) (by omega) _).trans (hchar ?_)⟩
    rw [hx, hy, hnext]
    omega
  · have hx := toNat_ofNat_byte (n := v / 262144 % 8 + 240) (by omega)
    have hy := hnext (v / 4096)
    refine ⟨_, _, rfl, (firstPiece_four (by omega) (by omega) (hlow _) (hhigh _) (hlow _)
      (hhigh _) (hlow _) (hhigh _) (by omega) (by omega) _).trans (hchar ?_)⟩
    rw [hx, hy, hnext, hnext]
    omega

/-! ### Whole texts -/

/-- The pieces of an encoding are the characters. -/
theorem pieces_flatMap (cs : List Char) :
    pieces (cs.flatMap String.utf8EncodeChar) = cs.map .char := by
  induction cs with
  | nil => rw [List.flatMap_nil, pieces, List.map_nil]
  | cons c cs ih =>
    obtain ⟨x, r, hbytes, hfirst⟩ := firstPiece_utf8EncodeChar c (cs.flatMap String.utf8EncodeChar)
    rw [List.flatMap_cons, hbytes, pieces, hfirst, ih, List.map_cons]

/-- The encoding of a text is read as the text. -/
theorem ofUtf8Lenient_toUTF8 (s : String) : ofUtf8Lenient s.toUTF8 = s := by
  rw [ofUtf8Lenient, toList_bytes, toList_toUTF8, pieces_flatMap, List.map_map]
  exact (congrArg String.ofList (List.map_id _)).trans String.ofList_toList

end PolicyPack.Text
