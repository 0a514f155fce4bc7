import PolicyPack.Json.Printer
import PolicyPack.Json.Token
import PolicyPack.Proofs.Outcome

/-!
# Reading quoted texts back

Each character of a text is read back from what is written for it, be it the character itself, an
escape of one letter or one of four digits. So reading what was written in quotes gives the text,
and leaves what follows the closing quote.
-/

namespace PolicyPack.Json

@[simp] theorem toList_quote (s : String) : (quote s).toList = quoteChars s := by
  simp [quote]

/-- What stands between two characters stays as it is when it is read. -/
theorem map_some_enclosed (c d : Char) (cs : List Char) (s : List Symbol) :
    (c :: cs ++ [d]).map some ++ s = some c :: (cs.map some ++ some d :: s) := by
  simp

theorem hexValue?_hexDigit (n : Nat) : hexValue? (hexDigit n) = some (n % 16) := by
  have h : ∀ m < 16, hexValue? (Nat.digitChar m) = some m := by decide
  exact h _ (Nat.mod_lt _ (by decide))

/-- The four digits written for a control character stand for it. -/
theorem escape_digits {c : Char} (hc : c.toNat < 0x20) (s : List Symbol) :
    escape (['u', '0', '0', hexDigit (c.toNat / 16), hexDigit c.toNat].map some ++ s)
      = .ok (c, s) := by
  have hzero : hexValue? '0' = some 0 := by decide
  have hvalue : (((0 * 16 + 0) * 16 + c.toNat / 16 % 16) * 16 + c.toNat % 16) = c.toNat := by omega
  have hfour : fourHex (['0', '0', hexDigit (c.toNat / 16), hexDigit c.toNat].map some ++ s)
      = .ok (c.toNat, s) := by
    simp only [List.map_cons, List.map_nil, List.cons_append, List.nil_append, fourHex, hzero,
      hexValue?_hexDigit, hvalue]
  have hlow : ¬ (0xdc00 ≤ c.toNat ∧ c.toNat ≤ 0xdfff) := by omega
  have hhigh : ¬ (0xd800 ≤ c.toNat ∧ c.toNat ≤ 0xdbff) := by omega
  simp only [List.map_cons, List.map_nil, List.cons_append, List.nil_append] at hfour ⊢
  simp [escape, hfour, hlow, hhigh]

/-- What is written for a character reads as that character. -/
theorem stringSymbols_escapeChar (c : Char) (fuel : Nat) (s : List Symbol) :
    stringSymbols (fuel + 1) ((escapeChar c).map some ++ s)
      = (stringSymbols fuel s).map fun r => (some c :: r.1, r.2) := by
  -- an escape is a backslash and what `escape` reads as the character
  have hescape : ∀ e : List Char, escape (e.map some ++ s) = .ok (c, s) →
      stringSymbols (fuel + 1) (('\\' :: e).map some ++ s)
        = (stringSymbols fuel s).map fun r => (some c :: r.1, r.2) := by
    intro e he
    rw [List.map_cons, List.cons_append, stringSymbols, he]
    simp only [ok_bind]
    cases stringSymbols fuel s <;> rfl
  unfold escapeChar
  split
  · next h => exact hescape ['"'] (by simp [escape, h])
  split
  · next h => exact hescape ['\\'] (by simp [escape, h])
  split
  · next h => exact hescape ['b'] (by simp [escape, h])
  split
  · next h => exact hescape ['t'] (by simp [escape, h])
  split
  · next h => exact hescape ['n'] (by simp [escape, h])
  split
  · next h => exact hescape ['f'] (by simp [escape, h])
  split
  · next h => exact hescape ['r'] (by simp [escape, h])
  split
  · next h => exact hescape _ (escape_digits h s)
  · next hquote hslash _ _ _ _ _ hcontrol =>
    have hc : isControl (some c) = false := by simpa [isControl] using hcontrol
    rw [List.map_cons, List.map_nil, List.singleton_append, stringSymbols]
    · simp only [hc]
      cases stringSymbols fuel s <;> rfl
    · simpa using hquote
    · simpa using hslash

/-- A text of `n` characters takes `n` steps to read and one for its closing quote. -/
theorem stringSymbols_quoted (cs : List Char) (fuel : Nat) (h : cs.length < fuel)
    (s : List Symbol) :
    stringSymbols fuel ((cs.flatMap escapeChar).map some ++ some '"' :: s)
      = .ok (cs.map some, s) := by
  induction cs generalizing fuel with
  | nil =>
    obtain ⟨fuel, rfl⟩ := Nat.exists_eq_add_of_lt h
    simp [stringSymbols]
  | cons c cs ih =>
    obtain ⟨fuel, rfl⟩ : ∃ n, fuel = n + 1 := ⟨fuel - 1, by simp at h; omega⟩
    rw [List.flatMap_cons, List.map_append, List.append_assoc, stringSymbols_escapeChar,
      ih fuel (by simpa using h)]
    rfl

theorem length_le_flatMap_escapeChar (cs : List Char) :
    cs.length ≤ (cs.flatMap escapeChar).length := by
  have hone (c : Char) : 1 ≤ (escapeChar c).length := by unfold escapeChar; grind
  induction cs with
  | nil => simp
  | cons c cs ih =>
    have := hone c
    simp only [List.flatMap_cons, List.length_append, List.length_cons]
    omega

/-- A quoted text reads as the text, from after its opening quote. -/
theorem string_quoted (x : String) (s : List Symbol) :
    string ((x.toList.flatMap escapeChar).map some ++ some '"' :: s) = .ok (x, s) := by
  have hlength := length_le_flatMap_escapeChar x.toList
  have hread := stringSymbols_quoted x.toList
    (((x.toList.flatMap escapeChar).map some ++ some '"' :: s).length + 1)
    (by simp only [List.length_append, List.length_map, List.length_cons]; omega) s
  rw [string, hread]
  simp [List.filterMap_map]

end PolicyPack.Json
