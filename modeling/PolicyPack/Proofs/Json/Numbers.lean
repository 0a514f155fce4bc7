import PolicyPack.Json.Reader
import PolicyPack.Proofs.Json.NumberText
import PolicyPack.Proofs.Json.Values
import PolicyPack.Proofs.Outcome

/-!
# Reading numbers back

A reader takes from the input exactly the text of a number, whatever may follow a value comes
after it. A whole number of 64 bits reads as itself. A floating-point number need not: its digits
are taken in three roundings, so what it reads as is a number of its own.
-/

namespace PolicyPack.Json

/-- What may follow a value: nothing, a comma, or the end of a container. -/
def Ends : List Symbol → Prop
  | some c :: _ => c = ',' ∨ c = ']' ∨ c = '\x7d'
  | _ => True

@[simp] theorem ends_nil : Ends [] := trivial

@[simp] theorem ends_comma (s : List Symbol) : Ends (some ',' :: s) := .inl rfl

@[simp] theorem ends_bracket (s : List Symbol) : Ends (some ']' :: s) := .inr (.inl rfl)

@[simp] theorem ends_brace (s : List Symbol) : Ends (some '\x7d' :: s) := .inr (.inr rfl)

/-- The input does not begin with a digit. -/
def NoDigit (s : List Symbol) : Prop := ∀ c r, s = some c :: r → c.isDigit = false

theorem Ends.noDigit {s : List Symbol} (h : Ends s) : NoDigit s := by
  rintro c r rfl
  rcases h with rfl | rfl | rfl <;> rfl

theorem noDigit_cons {c : Char} (h : c.isDigit = false) (s : List Symbol) :
    NoDigit (some c :: s) := by
  rintro d r hd
  cases hd
  exact h

/-! ### Digits -/

theorem digit?_of_isDigit {c : Char} (h : c.isDigit = true) : digit? c = some (c.toNat - 48) := by
  simp [digit?, h]

/-- All digits at the front are taken. -/
theorem takeDigits_append {ds : List Char} (hd : ∀ c ∈ ds, c.isDigit = true) {t : List Symbol}
    (ht : NoDigit t) :
    takeDigits (ds.map some ++ t) = (ds.map fun c => c.toNat - 48, t) := by
  induction ds with
  | nil =>
    match t with
    | [] => rfl
    | none :: _ => rfl
    | some c :: r =>
      have hc : digit? c = none := by simp [digit?, ht c r rfl]
      simp [takeDigits, hc]
  | cons c ds ih =>
    have hc := digit?_of_isDigit (hd c (by simp))
    simp [takeDigits, hc, ih fun d hmem => hd d (by simp [hmem])]

theorem takeDigits_digits {ds : List Char} (hd : ∀ c ∈ ds, c.isDigit = true) :
    takeDigits (ds.map some) = (ds.map fun c => c.toNat - 48, []) := by
  simpa using takeDigits_append hd (t := []) (by rintro c r h; cases h)

/-! ### Exactly the text of a number -/

/-- Reading takes exactly these characters from the input, and what it makes of them does not
depend on what follows. -/
def Takes (read : List Symbol → Except Fault (Number × List Symbol)) (cs : List Char) : Prop :=
  ∀ t, Ends t → read (cs.map some ++ t) = (read (cs.map some)).map fun r => (r.1, t)

/-- A result with what follows it is the result with nothing after it, and then what follows. -/
theorem bind_rest {α : Type} (x : Except Fault α) (t : List Symbol) :
    (x >>= fun n => (.ok (n, t) : Except Fault (α × List Symbol)))
      = (x >>= fun n => (.ok (n, []) : Except Fault (α × List Symbol))).map fun r => (r.1, t) := by
  cases x <;> rfl

theorem takes_exponentPart (negative : Bool) (x : Scaled) (down : Bool) {es : List Char}
    (he : AreDigits es) :
    Takes (exponentPart negative x) ((if down then '-' else '+') :: es) := by
  intro t ht
  have hes : es.map some ++ t ≠ [] := by simp [he.1]
  have hnil : es.map some ≠ [] := by simp [he.1]
  cases down
  all_goals
    simp only [Bool.false_eq_true, if_false, if_true, List.map_cons, List.cons_append,
      exponentPart, takeDigits_append he.2 ht.noDigit, takeDigits_digits he.2]
    simp only [List.isEmpty_iff, hes, hnil, List.map_eq_nil_iff, he.1, if_false, pure_eq_ok]
    exact bind_rest ..

/-- What follows the digits before the point is taken as a whole. -/
theorem takes_afterWhole (negative : Bool) (x : Scaled) {cs : List Char} (h : NumberTail cs) :
    Takes (afterWhole negative x) cs := by
  intro t ht
  cases h with
  | whole =>
    have hend : afterWhole negative x t = (do return (← x.toWhole negative, t)) := by
      match t, ht with
      | [], _ => rfl
      | none :: _, _ => rfl
      | some c :: r, hc => rcases hc with rfl | rfl | rfl <;> rfl
    rw [List.map_nil, List.nil_append, hend]
    exact bind_rest ..
  | @fraction ds hd =>
    have hne : ds.map (fun c => c.toNat - 48) ≠ [] := by simp [hd.1]
    have hend : afterWhole negative x (('.' :: ds).map some ++ t)
        = (do return (← (x.addFraction (ds.map fun c => c.toNat - 48)).toFloat negative, t)) := by
      simp only [List.map_cons, List.cons_append, afterWhole,
        takeDigits_append hd.2 ht.noDigit, List.isEmpty_iff, hne, if_false]
      match t, ht with
      | [], _ => rfl
      | none :: _, _ => rfl
      | some c :: r, hc => rcases hc with rfl | rfl | rfl <;> rfl
    have hnil : afterWhole negative x (('.' :: ds).map some)
        = (do return (← (x.addFraction (ds.map fun c => c.toNat - 48)).toFloat negative, [])) := by
      simp only [List.map_cons, afterWhole, takeDigits_digits hd.2, List.isEmpty_iff, hne, if_false]
    rw [hend, hnil]
    exact bind_rest ..
  | @exponent down es he =>
    have := takes_exponentPart negative x down he t ht
    simpa only [List.map_cons, List.cons_append, afterWhole] using this
  | @both down ds es hd he =>
    have hne : ds.map (fun c => c.toNat - 48) ≠ [] := by simp [hd.1]
    have hexp (s : List Symbol) : afterWhole negative x
        (('.' :: ds ++ 'e' :: (if down then '-' else '+') :: es).map some ++ s)
          = exponentPart negative (x.addFraction (ds.map fun c => c.toNat - 48))
              (((if down then '-' else '+') :: es).map some ++ s) := by
      have hstop : NoDigit (some 'e' :: (((if down then '-' else '+') :: es).map some ++ s)) :=
        noDigit_cons rfl _
      simp only [List.map_append, List.map_cons, List.cons_append, List.append_assoc] at hstop ⊢
      simp only [afterWhole, takeDigits_append hd.2 hstop, List.isEmpty_iff, hne, if_false]
    have hnil := hexp []
    rw [List.append_nil, List.append_nil] at hnil
    rw [hexp t, hnil]
    exact takes_exponentPart _ _ down he t ht

/-- Tails of numbers do not begin with a digit. -/
theorem noDigit_tail {cs : List Char} (h : NumberTail cs) {t : List Symbol} (ht : Ends t) :
    NoDigit (cs.map some ++ t) := by
  cases h with
  | whole => simpa using ht.noDigit
  | fraction => exact noDigit_cons rfl _
  | exponent => exact noDigit_cons rfl _
  | both => exact noDigit_cons rfl _

theorem eq_zero_of_digit {c : Char} (hc : c.isDigit = true) (h : c.toNat - 48 = 0) : c = '0' := by
  simp only [Char.isDigit, Bool.and_eq_true, decide_eq_true_eq] at hc
  have hle : '0'.toNat ≤ c.toNat := by simpa using UInt32.le_iff_toNat_le.mp hc.1
  have h0 : '0'.toNat = 48 := rfl
  exact Char.toNat_inj.mp (by omega)

/-- Digits without a leading zero are read as what they stand for, before all that follows. -/
theorem number_digits (negative : Bool) {ds : List Char} (hd : AreDigits ds)
    (hzero : ds.head? = some '0' → ds = ['0']) {t : List Symbol} (ht : NoDigit t) :
    number negative (ds.map some ++ t)
      = afterWhole negative (Scaled.addWhole ⟨0, 0⟩ (ds.map fun c => c.toNat - 48)) t := by
  rw [number, takeDigits_append hd.2 ht]
  match ds, hd, hzero with
  | [c], _, _ =>
    simp only [List.map_cons, List.map_nil]
    cases c.toNat - 48 <;> rfl
  | c :: d :: r, hd, hzero =>
    have hpos : c.toNat - 48 ≠ 0 := by
      intro h0
      have := hzero (by simp [eq_zero_of_digit (hd.2 c (by simp)) h0])
      simp at this
    obtain ⟨n, hn⟩ := Nat.exists_eq_succ_of_ne_zero hpos
    simp only [List.map_cons, hn]

theorem takes_number (negative : Bool) {cs : List Char} (h : NumberText cs) :
    Takes (number negative) cs := by
  obtain ⟨ds, tail, rfl, hd, hzero, htail⟩ := h.parts
  intro t ht
  have hnil := number_digits negative hd hzero (noDigit_tail htail ends_nil)
  rw [List.append_nil] at hnil
  rw [List.map_append, List.append_assoc, number_digits negative hd hzero (noDigit_tail htail ht),
    hnil]
  exact takes_afterWhole _ _ htail t ht

/-! ### Numbers with their sign -/

/-- Reads a number from its first symbol. -/
def signedNumber : List Symbol → Except Fault (Number × List Symbol)
  | some '-' :: r => number true r
  | s => number false s

/-- What the text of a number reads as. -/
def Number.reread (n : Number) : Except Fault Number :=
  (signedNumber (symbolsOfText n.render)).map Prod.fst

theorem signedNumber_digit {c : Char} (h : c.isDigit = true) (s : List Symbol) :
    signedNumber (some c :: s) = number false (some c :: s) := by
  unfold signedNumber
  split
  · next hs =>
    cases hs
    exact absurd h (by decide)
  · rfl

theorem floatLayout_isMarked : floatLayout.IsMarked := ⟨rfl, rfl⟩

theorem toList_toString_nat (n : Nat) : (toString n).toList = Nat.toDigits 10 n := by
  rw [Nat.toString_eq_ofList_toDigits, String.toList_ofList]

theorem toList_toString_int (n : Int) :
    (toString n).toList = (if n < 0 then ['-'] else []) ++ Nat.toDigits 10 n.natAbs := by
  rw [Int.toString_eq_repr, Int.repr_eq_if]
  by_cases h : n < 0
  · have habs : (-n).toNat = n.natAbs := by omega
    have hneg : ¬ 0 ≤ n := by omega
    simp [h, hneg, habs, String.toList_append, Nat.repr_eq_ofList_toDigits]
  · have habs : n.toNat = n.natAbs := by omega
    have hpos : 0 ≤ n := by omega
    simp [h, hpos, habs, Nat.repr_eq_ofList_toDigits]

/-- A number is written as its digits and what belongs to them, after a minus if it is negative. -/
theorem Number.render_parts (n : Number) : ∃ cs, NumberText cs ∧
    ∃ negative : Bool, n.render.toList = (if negative then ['-'] else []) ++ cs := by
  cases n with
  | int n =>
    exact ⟨_, numberText_toDigits n.natAbs, decide (n < 0), by
      simpa [Number.render] using toList_toString_int n⟩
  | float x =>
    obtain ⟨cs, hcs, hx⟩ := floatLayout_isMarked.renderBinary64_parts x
    exact ⟨cs, hcs, x.negative, hx⟩

/-- A number with its sign is taken from the input as a whole. -/
theorem takes_signedNumber (n : Number) : Takes signedNumber n.render.toList := by
  obtain ⟨cs, hcs, negative, hn⟩ := n.render_parts
  rw [hn]
  intro t ht
  cases negative with
  | true => exact takes_number true hcs t ht
  | false =>
    obtain ⟨c, r, rfl, hc⟩ := hcs.eq_cons
    have h := takes_number false hcs t ht
    simpa [signedNumber_digit hc] using h

theorem signedNumber_render (n : Number) {t : List Symbol} (ht : Ends t) :
    signedNumber (n.render.toList.map some ++ t) = n.reread.map fun m => (m, t) := by
  rw [takes_signedNumber n t ht, Number.reread, symbolsOfText, map_map]

/-! ### Whole numbers -/

theorem le_ofDigitChars (cs : List Char) (m : Nat) : m ≤ Nat.ofDigitChars 10 cs m := by
  induction cs generalizing m with
  | nil => simp
  | cons c cs ih =>
    have := ih (10 * m + (c.toNat - '0'.toNat))
    rw [Nat.ofDigitChars_cons]
    omega

/-- Digits whose number fits 64 bits are all taken in. -/
theorem Scaled.addWhole_digits (cs : List Char) (m : Nat) (e : Int)
    (h : Nat.ofDigitChars 10 cs m < wordEnd) :
    Scaled.addWhole ⟨m, e⟩ (cs.map fun c => c.toNat - 48) = ⟨Nat.ofDigitChars 10 cs m, e⟩ := by
  induction cs generalizing m with
  | nil => simp [Scaled.addWhole]
  | cons c cs ih =>
    have h0 : '0'.toNat = 48 := rfl
    rw [Nat.ofDigitChars_cons, h0, Nat.mul_comm] at h
    have hle := le_ofDigitChars cs (m * 10 + (c.toNat - 48))
    have hfits : m * 10 + (c.toNat - 48) < wordEnd := by omega
    rw [List.map_cons, Scaled.addWhole, if_pos hfits, ih _ h, Nat.ofDigitChars_cons, h0,
      Nat.mul_comm]

theorem number_toDigits (negative : Bool) {n : Nat} (h : n < wordEnd) :
    number negative ((Nat.toDigits 10 n).map some)
      = (Scaled.toWhole negative ⟨n, 0⟩).map fun m => (m, []) := by
  have hzero : (Nat.toDigits 10 n).head? = some '0' → Nat.toDigits 10 n = ['0'] := by
    intro hhead
    rw [eq_zero_of_head?_toDigits hhead]
    rfl
  have hread := number_digits negative (areDigits_toDigits n) hzero ends_nil.noDigit
  rw [List.append_nil, Scaled.addWhole_digits _ _ _ (by rwa [Nat.ofDigitChars_ten_toDigits]),
    Nat.ofDigitChars_ten_toDigits] at hread
  rw [hread]
  simp only [afterWhole]
  cases Scaled.toWhole negative ⟨n, 0⟩ <;> rfl

/-- A whole number of 64 bits reads as itself. -/
theorem Number.reread_int {n : Int} (h : (Number.int n).InRange) :
    (Number.int n).reread = .ok (.int n) := by
  have hend : wordEnd = 0x10000000000000000 := rfl
  obtain ⟨hleast, hgreatest⟩ := h
  have hread (negative : Bool) := number_toDigits negative (n := n.natAbs) (by omega)
  rw [reread, symbolsOfText, Number.render, toList_toString_int]
  by_cases hn : n < 0
  · have hwhole : Scaled.toWhole true ⟨n.natAbs, 0⟩ = .ok (.int n) := by
      have hsize : ¬ (n.natAbs = 0 ∨ 0x8000000000000000 < n.natAbs) := by omega
      have habs : -(n.natAbs : Int) = n := by omega
      simp only [Scaled.toWhole, ne_eq, not_true_eq_false, if_false, Bool.not_true,
        Bool.false_eq_true, Bool.or_eq_true, decide_eq_true_eq, hsize, habs]
    simp [hn, signedNumber, hread, hwhole]
  · obtain ⟨c, r, hcr, hc⟩ := (numberText_toDigits n.natAbs).eq_cons
    have habs : (n.natAbs : Int) = n := by omega
    have hsigned : signedNumber ((Nat.toDigits 10 n.natAbs).map some)
        = number false ((Nat.toDigits 10 n.natAbs).map some) := by
      rw [hcr, List.map_cons, signedNumber_digit hc]
    simp [hn, hsigned, hread, Scaled.toWhole, habs]

/-- The text of a number reads as the number. This is so for every whole number, and depends on the
digits of a floating-point number. -/
def Number.ReadsBack (n : Number) : Prop := Value.ofText n.render = .ok (.number n)

end PolicyPack.Json
