import PolicyPack.Proofs.Outcome
import PolicyPack.Text.Utf8

/-!
# Bytes that are text

The strict reading of bytes succeeds exactly on the encodings of texts. A piece that is a character
is made of the bytes that encode it, so bytes whose pieces are all characters are an encoding.
-/

namespace PolicyPack.Text

/-! ### One character -/

theorem toNat_ofNat {n : Nat} (h : n.isValidChar) : (Char.ofNat n).val.toNat = n := by
  rw [Char.ofNat, dif_pos h]
  rfl

theorem ofNat_eq {n : Nat} {x : UInt8} (h : n = x.toNat) : UInt8.ofNat n = x :=
  h ▸ UInt8.ofNat_toNat

theorem utf8EncodeChar_one {x : UInt8} (hx : x.toNat < 0x80) :
    String.utf8EncodeChar (Char.ofNat x.toNat) = [x] := by
  have hvalid : x.toNat.isValidChar := .inl (by omega)
  rw [String.utf8EncodeChar, toNat_ofNat hvalid, if_pos (by omega), UInt8.ofNat_toNat]

theorem utf8EncodeChar_two {x y : UInt8} (hx : 0xc2 ≤ x.toNat) (hx' : x.toNat ≤ 0xdf)
    (hy : 0x80 ≤ y.toNat) (hy' : y.toNat ≤ 0xbf) :
    String.utf8EncodeChar (Char.ofNat ((x.toNat - 0xc0) * 64 + (y.toNat - 0x80))) = [x, y] := by
  have hvalid : ((x.toNat - 0xc0) * 64 + (y.toNat - 0x80)).isValidChar := .inl (by omega)
  rw [String.utf8EncodeChar, toNat_ofNat hvalid, if_neg (by omega), if_pos (by omega)]
  exact List.cons_eq_cons.mpr ⟨ofNat_eq (by omega),
    List.cons_eq_cons.mpr ⟨ofNat_eq (by omega), rfl⟩⟩

/-- The bounds on the second byte rule out short code points and surrogates. -/
theorem utf8EncodeChar_three {x y z : UInt8} (hx : 0xe0 ≤ x.toNat) (hx' : x.toNat ≤ 0xef)
    (hy : 0x80 ≤ y.toNat) (hy' : y.toNat ≤ 0xbf) (hz : 0x80 ≤ z.toNat) (hz' : z.toNat ≤ 0xbf)
    (hleast : x.toNat = 0xe0 → 0xa0 ≤ y.toNat) (hgreatest : x.toNat = 0xed → y.toNat ≤ 0x9f) :
    String.utf8EncodeChar (Char.ofNat
      (((x.toNat - 0xe0) * 64 + (y.toNat - 0x80)) * 64 + (z.toNat - 0x80))) = [x, y, z] := by
  have hvalid : (((x.toNat - 0xe0) * 64 + (y.toNat - 0x80)) * 64
      + (z.toNat - 0x80)).isValidChar := by
    unfold Nat.isValidChar
    omega
  rw [String.utf8EncodeChar, toNat_ofNat hvalid, if_neg (by omega), if_neg (by omega),
    if_pos (by omega)]
  exact List.cons_eq_cons.mpr ⟨ofNat_eq (by omega), List.cons_eq_cons.mpr ⟨ofNat_eq (by omega),
    List.cons_eq_cons.mpr ⟨ofNat_eq (by omega), rfl⟩⟩⟩

/-- The bounds on the second byte rule out short code points and those past the last. -/
theorem utf8EncodeChar_four {x y z w : UInt8} (hx : 0xf0 ≤ x.toNat) (hx' : x.toNat ≤ 0xf4)
    (hy : 0x80 ≤ y.toNat) (hy' : y.toNat ≤ 0xbf) (hz : 0x80 ≤ z.toNat) (hz' : z.toNat ≤ 0xbf)
    (hw : 0x80 ≤ w.toNat) (hw' : w.toNat ≤ 0xbf)
    (hleast : x.toNat = 0xf0 → 0x90 ≤ y.toNat) (hgreatest : x.toNat = 0xf4 → y.toNat ≤ 0x8f) :
    String.utf8EncodeChar (Char.ofNat
      ((((x.toNat - 0xf0) * 64 + (y.toNat - 0x80)) * 64 + (z.toNat - 0x80)) * 64
        + (w.toNat - 0x80))) = [x, y, z, w] := by
  have hvalid : ((((x.toNat - 0xf0) * 64 + (y.toNat - 0x80)) * 64 + (z.toNat - 0x80)) * 64
      + (w.toNat - 0x80)).isValidChar := by
    unfold Nat.isValidChar
    omega
  rw [String.utf8EncodeChar, toNat_ofNat hvalid, if_neg (by omega), if_neg (by omega),
    if_neg (by omega)]
  exact List.cons_eq_cons.mpr ⟨ofNat_eq (by omega), List.cons_eq_cons.mpr ⟨ofNat_eq (by omega),
    List.cons_eq_cons.mpr ⟨ofNat_eq (by omega), List.cons_eq_cons.mpr ⟨ofNat_eq (by omega), rfl⟩⟩⟩⟩

theorem ne_ofNat {b : UInt8} {n : Nat} (hn : b.toNat ≠ n) (hlt : n < 0x100) :
    b ≠ UInt8.ofNat n := by
  rintro rfl
  exact hn (UInt8.toNat_ofNat_of_lt' hlt)

/-- An ASCII byte is in the encoding of its own character only. -/
theorem not_mem_utf8EncodeChar {b : UInt8} {c : Char} (hb : b.toNat < 0x80)
    (hc : b.toNat ≠ c.toNat) : b ∉ String.utf8EncodeChar c := by
  have hval : b.toNat ≠ c.val.toNat := hc
  rw [String.utf8EncodeChar]
  split
  · rw [List.mem_singleton]
    exact ne_ofNat hval (by omega)
  split
  · simp only [List.mem_cons, List.not_mem_nil, or_false, not_or]
    exact ⟨ne_ofNat (by omega) (by omega), ne_ofNat (by omega) (by omega)⟩
  split
  · simp only [List.mem_cons, List.not_mem_nil, or_false, not_or]
    exact ⟨ne_ofNat (by omega) (by omega), ne_ofNat (by omega) (by omega),
      ne_ofNat (by omega) (by omega)⟩
  · simp only [List.mem_cons, List.not_mem_nil, or_false, not_or]
    exact ⟨ne_ofNat (by omega) (by omega), ne_ofNat (by omega) (by omega),
      ne_ofNat (by omega) (by omega), ne_ofNat (by omega) (by omega)⟩

/-! ### Pieces -/

/-- A byte announces one, two or three further bytes, and bounds on the next one that depend on
it. -/
theorem lead?_cases {x : UInt8} {l : Lead} (h : lead? x = some l) :
    (0xc2 ≤ x.toNat ∧ x.toNat ≤ 0xdf ∧ l = ⟨1, 0x80, 0xbf, x.toNat - 0xc0⟩) ∨
    (0xe0 ≤ x.toNat ∧ x.toNat ≤ 0xef ∧ ∃ a b : UInt8, l = ⟨2, a, b, x.toNat - 0xe0⟩ ∧
      0x80 ≤ a.toNat ∧ b.toNat ≤ 0xbf ∧ (x.toNat = 0xe0 → 0xa0 ≤ a.toNat) ∧
      (x.toNat = 0xed → b.toNat ≤ 0x9f)) ∨
    (0xf0 ≤ x.toNat ∧ x.toNat ≤ 0xf4 ∧ ∃ a b : UInt8, l = ⟨3, a, b, x.toNat - 0xf0⟩ ∧
      0x80 ≤ a.toNat ∧ b.toNat ≤ 0xbf ∧ (x.toNat = 0xf0 → 0x90 ≤ a.toNat) ∧
      (x.toNat = 0xf4 → b.toNat ≤ 0x8f)) := by
  unfold lead? at h
  simp only [Bool.and_eq_true, decide_eq_true_eq, beq_iff_eq, UInt8.le_iff_toNat_le,
    ← UInt8.toNat_inj, UInt8.reduceToNat] at h
  split at h
  · cases h
    exact .inl ⟨by omega, by omega, rfl⟩
  split at h
  · next hx =>
    cases h
    exact .inr (.inl ⟨by omega, by omega, 0xa0, 0xbf, by simp [hx], by decide, by decide,
      fun _ => by decide, by omega⟩)
  split at h
  · next hx =>
    cases h
    exact .inr (.inl ⟨by omega, by omega, 0x80, 0x9f, by simp [hx], by decide, by decide,
      by omega, fun _ => by decide⟩)
  split at h
  · cases h
    exact .inr (.inl ⟨by omega, by omega, 0x80, 0xbf, rfl, by decide, by decide, by omega,
      by omega⟩)
  split at h
  · next hx =>
    cases h
    exact .inr (.inr ⟨by omega, by omega, 0x90, 0xbf, by simp [hx], by decide, by decide,
      fun _ => by decide, by omega⟩)
  split at h
  · cases h
    exact .inr (.inr ⟨by omega, by omega, 0x80, 0xbf, rfl, by decide, by decide, by omega,
      by omega⟩)
  split at h
  · next hx =>
    cases h
    exact .inr (.inr ⟨by omega, by omega, 0x80, 0x8f, by simp [hx], by decide, by decide,
      by omega, fun _ => by decide⟩)
  · cases h

/-- Where a character is read, the next byte is there and in its range. -/
theorem continuation_succ {least greatest : UInt8} {bits taken k : Nat} {r : List UInt8} {c : Char}
    (h : (continuation least greatest bits taken (k + 1) r).1 = .char c) :
    ∃ y s, r = y :: s ∧ least.toNat ≤ y.toNat ∧ y.toNat ≤ greatest.toNat ∧
      continuation least greatest bits taken (k + 1) r
        = continuation 0x80 0xbf (bits * 64 + (y.toNat - 0x80)) (taken + 1) k s := by
  cases r with
  | nil => cases h
  | cons y s =>
    rw [continuation] at h
    split at h
    · next hrange =>
      obtain ⟨hleast, hgreatest⟩ := Bool.and_eq_true_iff.mp hrange
      refine ⟨y, s, rfl, UInt8.le_iff_toNat_le.mp (of_decide_eq_true hleast),
        UInt8.le_iff_toNat_le.mp (of_decide_eq_true hgreatest), ?_⟩
      rw [continuation, if_pos hrange]
    · cases h

/-- A piece that is a character takes the bytes that encode it. -/
theorem firstPiece_char {x : UInt8} {r : List UInt8} {c : Char}
    (h : (firstPiece x r).1 = .char c) :
    x :: r = String.utf8EncodeChar c ++ (firstPiece x r).2 := by
  unfold firstPiece at h ⊢
  split at h
  · next hx =>
    rw [if_pos hx]
    cases h
    rw [utf8EncodeChar_one (UInt8.lt_iff_toNat_lt.mp hx)]
    rfl
  · next hx =>
    rw [if_neg hx]
    cases hl : lead? x with
    | none => simp [hl] at h
    | some l =>
      simp only [hl] at h ⊢
      rcases lead?_cases hl with ⟨h₁, h₂, rfl⟩ | ⟨h₁, h₂, a, b, rfl, ha, hb, hleast, hgreatest⟩ |
        ⟨h₁, h₂, a, b, rfl, ha, hb, hleast, hgreatest⟩ <;> dsimp only at h ⊢
      · obtain ⟨y, s, rfl, hy, hy', heq⟩ := continuation_succ h
        rw [heq] at h ⊢
        rw [← Piece.char.inj h, utf8EncodeChar_two h₁ h₂ hy hy']
        rfl
      · obtain ⟨y, s, rfl, hy, hy', heq⟩ := continuation_succ h
        rw [heq] at h ⊢
        obtain ⟨z, s, rfl, hz, hz', heq⟩ := continuation_succ h
        rw [heq] at h ⊢
        rw [← Piece.char.inj h, utf8EncodeChar_three h₁ h₂ (Nat.le_trans ha hy)
          (Nat.le_trans hy' hb) hz hz' (fun hx => Nat.le_trans (hleast hx) hy)
          fun hx => Nat.le_trans hy' (hgreatest hx)]
        rfl
      · obtain ⟨y, s, rfl, hy, hy', heq⟩ := continuation_succ h
        rw [heq] at h ⊢
        obtain ⟨z, s, rfl, hz, hz', heq⟩ := continuation_succ h
        rw [heq] at h ⊢
        obtain ⟨w, s, rfl, hw, hw', heq⟩ := continuation_succ h
        rw [heq] at h ⊢
        rw [← Piece.char.inj h, utf8EncodeChar_four h₁ h₂ (Nat.le_trans ha hy)
          (Nat.le_trans hy' hb) hz hz' hw hw' (fun hx => Nat.le_trans (hleast hx) hy)
          fun hx => Nat.le_trans hy' (hgreatest hx)]
        rfl

/-- Pieces that are all characters are made of the bytes that encode them. -/
theorem eq_of_charsOfPieces {bytes : List UInt8} {i : Nat} {cs : List Char}
    (h : charsOfPieces i (pieces bytes) = .ok cs) : bytes = cs.flatMap String.utf8EncodeChar := by
  induction bytes using pieces.induct generalizing i cs with
  | case1 =>
    rw [pieces] at h
    cases h
    rfl
  | case2 x r ih =>
    rw [pieces] at h
    cases hp : (firstPiece x r).1 with
    | char c =>
      rw [hp, charsOfPieces] at h
      obtain ⟨cs, hcs, h⟩ := bind_eq_ok.mp h
      cases h
      rw [List.flatMap_cons, ← ih hcs]
      exact firstPiece_char hp
    | illFormed n =>
      rw [hp] at h
      cases h
    | cut =>
      rw [hp] at h
      cases h

/-! ### Whole texts -/

theorem loop_toList (bytes : ByteArray) (i : Nat) (acc : List UInt8) :
    ByteArray.toList.loop bytes i acc = acc.reverse ++ bytes.data.toList.drop i := by
  induction i, acc using ByteArray.toList.loop.induct bytes with
  | case1 i acc hi ih =>
    have hget : bytes.get! i = bytes.data.toList[i] := getElem!_pos bytes.data i hi
    rw [ByteArray.toList.loop, if_pos hi, ih, List.drop_eq_getElem_cons hi, hget]
    simp
  | case2 i acc hi =>
    rw [ByteArray.toList.loop, if_neg hi, List.drop_eq_nil_of_le (Nat.le_of_not_lt hi),
      List.append_nil]

theorem toList_bytes (bytes : ByteArray) : bytes.toList = bytes.data.toList :=
  loop_toList bytes 0 []

theorem toList_toUTF8 (s : String) :
    s.toUTF8.data.toList = s.toList.flatMap String.utf8EncodeChar := by
  have h : s.toUTF8 = (s.toList.flatMap String.utf8EncodeChar).toByteArray := by
    rw [← String.ofList_toList (s := s), String.toList_ofList]
    exact String.toByteArray_ofList
  rw [h, List.data_toByteArray]

/-- The encoding of a text without null characters has no zero byte. -/
theorem zero_not_mem_toUTF8 {s : String} (h : '\x00' ∉ s.toList) : 0 ∉ s.toUTF8.data.toList := by
  rw [toList_toUTF8, List.mem_flatMap]
  rintro ⟨c, hc, hzero⟩
  have hne : (0 : UInt8).toNat ≠ c.toNat := by
    intro hnull
    obtain rfl : '\x00' = c := Char.toNat_inj.mp hnull
    exact h hc
  exact not_mem_utf8EncodeChar (by decide) hne hzero

theorem fromUTF8?_eq_some {bytes : ByteArray} {s : String} :
    String.fromUTF8? bytes = some s ↔ bytes = s.toUTF8 := by
  constructor
  · intro h
    unfold String.fromUTF8? at h
    split at h
    · cases h
      rfl
    · cases h
  · rintro rfl
    exact dif_pos s.isValidUTF8

/-- Bytes are read as a text exactly when they are its encoding. -/
theorem ofUtf8_eq_ok {bytes : ByteArray} {s : String} :
    ofUtf8 bytes = .ok s ↔ bytes = s.toUTF8 := by
  rw [← fromUTF8?_eq_some]
  unfold ofUtf8
  cases hs : String.fromUTF8? bytes with
  | some t => simp
  | none =>
    refine iff_of_false (fun h => ?_) nofun
    -- pieces that are all characters would make the bytes an encoding
    obtain ⟨cs, hcs, rfl⟩ := map_eq_ok.mp h
    have hbytes : bytes = (String.ofList cs).toUTF8 := by
      apply ByteArray.ext
      rw [← Array.toList_inj, ← toList_bytes, eq_of_charsOfPieces hcs, toList_toUTF8,
        String.toList_ofList]
    rw [fromUTF8?_eq_some.mpr hbytes] at hs
    cases hs

end PolicyPack.Text
