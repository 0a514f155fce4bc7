import PolicyPack.Json.Value

/-!
# The text of numbers

What is written for a number is digits without a leading zero, perhaps a point and digits, and
perhaps an exponent, after a minus if the number is negative. A reader can rely on this form alone.
-/

namespace PolicyPack

/-- One or more decimal digits. -/
def AreDigits (cs : List Char) : Prop := cs ≠ [] ∧ ∀ c ∈ cs, c.isDigit = true

theorem AreDigits.append_right {cs ds : List Char} (hc : AreDigits cs)
    (hd : ∀ c ∈ ds, c.isDigit = true) : AreDigits (cs ++ ds) := by
  refine ⟨by simp [hc.1], fun c hmem => ?_⟩
  rcases List.mem_append.mp hmem with h | h
  · exact hc.2 c h
  · exact hd c h

theorem AreDigits.append_left {cs ds : List Char} (hc : ∀ c ∈ cs, c.isDigit = true)
    (hd : AreDigits ds) : AreDigits (cs ++ ds) := by
  refine ⟨by simp [hd.1], fun c hmem => ?_⟩
  rcases List.mem_append.mp hmem with h | h
  · exact hc c h
  · exact hd.2 c h

theorem AreDigits.head?_append {cs : List Char} (hc : AreDigits cs) (ds : List Char) :
    (cs ++ ds).head? = cs.head? := by
  obtain ⟨c, r, rfl⟩ := List.exists_cons_of_ne_nil hc.1
  rfl

theorem isDigit_of_mem_zeros {n : Nat} {c : Char} (h : c ∈ List.replicate n '0') :
    c.isDigit = true := by
  rw [(List.mem_replicate.mp h).2]
  rfl

theorem areDigits_toDigits (n : Nat) : AreDigits (Nat.toDigits 10 n) :=
  ⟨Nat.toDigits_ne_nil, fun _ h => Nat.isDigit_of_mem_toDigits (by decide) (by decide) h⟩

/-- Only zero is written with a zero at the front. -/
theorem eq_zero_of_head?_toDigits {n : Nat} (h : (Nat.toDigits 10 n).head? = some '0') : n = 0 := by
  induction n using Nat.strongRecOn with
  | ind n ih =>
    by_cases hn : n < 10
    · rw [Nat.toDigits_of_lt_base hn] at h
      simpa using h
    · have hdigits := Nat.toDigits_of_base_le (b := 10) (by decide) (Nat.le_of_not_lt hn)
      rw [hdigits, (areDigits_toDigits _).head?_append] at h
      have := ih (n / 10) (by omega) h
      omega

/-! ### The form of a number -/

/-- What is written after the digits before the point. -/
inductive NumberTail : List Char → Prop
  | whole : NumberTail []
  | fraction {ds : List Char} : AreDigits ds → NumberTail ('.' :: ds)
  | exponent (down : Bool) {es : List Char} : AreDigits es →
      NumberTail ('e' :: (if down then '-' else '+') :: es)
  | both (down : Bool) {ds es : List Char} : AreDigits ds → AreDigits es →
      NumberTail ('.' :: ds ++ 'e' :: (if down then '-' else '+') :: es)

/-- A number without its sign: a zero stands alone before the point. -/
structure NumberText (cs : List Char) : Prop where
  parts : ∃ ds tail, cs = ds ++ tail ∧ AreDigits ds ∧ (ds.head? = some '0' → ds = ['0']) ∧
    NumberTail tail

theorem NumberText.eq_cons {cs : List Char} (h : NumberText cs) :
    ∃ c r, cs = c :: r ∧ c.isDigit = true := by
  obtain ⟨ds, tail, rfl, hd, -, -⟩ := h.parts
  obtain ⟨c, r, rfl⟩ := List.exists_cons_of_ne_nil hd.1
  exact ⟨c, r ++ tail, rfl, hd.2 c (by simp)⟩

theorem numberText_toDigits (n : Nat) : NumberText (Nat.toDigits 10 n) := by
  refine ⟨_, [], (List.append_nil _).symm, areDigits_toDigits n, fun h => ?_, .whole⟩
  rw [eq_zero_of_head?_toDigits h]
  rfl

/-! ### Shortest digits -/

theorem Digits.trim_ne_zero (fuel : Nat) {d : Digits} (h : d.digits ≠ 0) :
    (d.trim fuel).digits ≠ 0 := by
  induction fuel generalizing d with
  | zero => exact h
  | succ fuel ih =>
    rw [Digits.trim]
    split
    · next hd =>
      have hmod : d.digits % 10 = 0 := by simp at hd; exact hd.1
      exact ih (by simp only; omega)
    · exact h

theorem Binary64.onGrid?_ne_zero {tie : Binary64.Tie} {x : Binary64} {s : Int} {d : Digits}
    (h : x.onGrid? tie s = some d) : d.digits ≠ 0 := by
  unfold Binary64.onGrid? at h
  simp only at h
  split at h
  · next hk _ =>
    have hk' := (Bool.and_eq_true_iff.mp hk).2
    obtain rfl := Option.some.inj h
    simp only
    split
    · simpa using hk'
    · exact Nat.succ_ne_zero _
  · next hk _ =>
    obtain rfl := Option.some.inj h
    simpa using (Bool.and_eq_true_iff.mp hk).2
  · obtain rfl := Option.some.inj h
    simp
  · cases h

theorem Binary64.shortest_ne_zero {x : Binary64} (h : x.isZero = false) :
    x.shortest.digits ≠ 0 := by
  refine Digits.trim_ne_zero 17 ?_
  cases hf : (List.range 17).findSome? fun n : Nat => x.onGrid? .toEven (x.leadingExponent - n) with
  | none => simpa [Binary64.isZero] using h
  | some d =>
    obtain ⟨n, -, hn⟩ := List.exists_of_findSome?_eq_some hf
    exact Binary64.onGrid?_ne_zero hn

/-! ### Layouts -/

namespace DecimalLayout

variable {l : DecimalLayout}

/-- A layout whose whole numbers end in a point and zeros, and that writes the sign of every
exponent. -/
structure IsMarked (l : DecimalLayout) : Prop where
  wholeEnding : l.wholeEnding = ".0"
  exponentSign : l.exponentSign = "+"

theorem IsMarked.numberText_scientific (hl : l.IsMarked) {ds : List Char} (hd : AreDigits ds)
    (leading : Int) : NumberText (l.scientific ds leading).toList := by
  obtain ⟨c, r, rfl⟩ := List.exists_cons_of_ne_nil hd.1
  have hc : AreDigits [c] := ⟨by simp, by simpa using hd.2 c (by simp)⟩
  have hexp : ((if leading < 0 then "-" else l.exponentSign) ++ toString leading.natAbs).toList =
      (if decide (leading < 0) then '-' else '+') :: Nat.toDigits 10 leading.natAbs := by
    by_cases h : leading < 0 <;> simp [h, hl.exponentSign]
  have hes := areDigits_toDigits leading.natAbs
  cases r with
  | nil =>
    refine ⟨[c], _, ?_, hc, by simp, .exponent (decide (leading < 0)) hes⟩
    simp [scientific, String.toList_append] at hexp ⊢
    exact hexp
  | cons d r =>
    have hr : AreDigits (d :: r) := ⟨by simp, fun x hx => hd.2 x (List.mem_cons_of_mem _ hx)⟩
    refine ⟨[c], _, ?_, hc, by simp, .both (decide (leading < 0)) hr hes⟩
    simp [scientific, String.toList_append] at hexp ⊢
    exact hexp

theorem IsMarked.numberText_positional (hl : l.IsMarked) {ds : List Char} (hd : AreDigits ds)
    {leading : Int} (hzero : ds.head? = some '0' → ds = ['0'] ∧ leading = 0) :
    NumberText (l.positional ds leading).toList := by
  unfold positional
  split
  · next h =>
    have hds : AreDigits (List.replicate (leading.natAbs - 1) '0' ++ ds) :=
      .append_left (fun _ => isDigit_of_mem_zeros) hd
    refine ⟨['0'], _, ?_, ⟨by simp, by simp⟩, by simp, .fraction hds⟩
    simp [String.toList_append]
  · next h =>
    simp only
    split
    · next hlen =>
      refine ⟨ds ++ List.replicate (leading.toNat + 1 - ds.length) '0', ['.', '0'], ?_,
        hd.append_right fun _ => isDigit_of_mem_zeros, fun hhead => ?_,
        .fraction ⟨by simp, by simp⟩⟩
      · simp [String.toList_append, hl.wholeEnding]
      · rw [hd.head?_append] at hhead
        obtain ⟨rfl, rfl⟩ := hzero hhead
        rfl
    · next hlen =>
      obtain ⟨c, r, rfl⟩ := List.exists_cons_of_ne_nil hd.1
      refine ⟨(c :: r).take (leading.toNat + 1), '.' :: (c :: r).drop (leading.toNat + 1), ?_,
        ⟨by simp, fun x hx => hd.2 x (List.mem_of_mem_take hx)⟩, fun hhead => ?_,
        .fraction ⟨?_, fun x hx => hd.2 x (List.mem_of_mem_drop hx)⟩⟩
      · simp [String.toList_append]
      · have := (hzero (by simpa using hhead)).1
        simp only [List.cons.injEq] at this
        simp [this] at hlen
      · simp only [ne_eq, List.drop_eq_nil_iff]
        omega

/-- A decimal is written as a number, if zero is written without an exponent. -/
theorem IsMarked.numberText_render (hl : l.IsMarked) {d : Digits}
    (hzero : d.digits = 0 → d.exponent = 0) : NumberText (l.render d).toList := by
  have hd := areDigits_toDigits d.digits
  unfold render
  simp only
  split
  · refine hl.numberText_positional hd fun hhead => ?_
    have h0 := eq_zero_of_head?_toDigits hhead
    simp [h0, hzero h0]
  · exact hl.numberText_scientific hd _

/-- A floating-point number is written as a number after its sign. -/
theorem IsMarked.renderBinary64_parts (hl : l.IsMarked) (x : Binary64) :
    ∃ cs, NumberText cs ∧ (l.renderBinary64 x).toList = (if x.negative then ['-'] else []) ++ cs := by
  refine ⟨_, hl.numberText_render (d := if x.isZero then ⟨0, 0⟩ else x.shortest) ?_, ?_⟩
  · split
    · simp
    · next h => exact fun h0 => absurd h0 (Binary64.shortest_ne_zero (by simpa using h))
  · unfold renderBinary64
    rw [String.toList_append]
    split <;> rfl

end DecimalLayout

end PolicyPack
