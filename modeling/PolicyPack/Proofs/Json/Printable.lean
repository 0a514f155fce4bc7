import PolicyPack.Proofs.Json.RoundTrip

/-!
# What is written holds no control characters

Whatever the texts in a value, what is written for it has no character below the space: in a text
they are written as escapes, and a number is made of digits and signs.
-/

namespace PolicyPack.Json

/-- No character is a control character below the space. -/
def Printable (cs : List Char) : Prop := ∀ c ∈ cs, 0x20 ≤ c.toNat

theorem printable_nil : Printable [] := by simp [Printable]

theorem printable_cons {c : Char} {cs : List Char} :
    Printable (c :: cs) ↔ 0x20 ≤ c.toNat ∧ Printable cs := List.forall_mem_cons

theorem printable_append {cs ds : List Char} :
    Printable (cs ++ ds) ↔ Printable cs ∧ Printable ds := List.forall_mem_append

/-! ### Texts -/

theorem printable_hexDigit (n : Nat) : 0x20 ≤ (hexDigit n).toNat := by
  have h : ∀ m < 16, 0x20 ≤ (Nat.digitChar m).toNat := by decide
  exact h _ (Nat.mod_lt _ (by decide))

theorem printable_escapeChar (c : Char) : Printable (escapeChar c) := by
  unfold escapeChar
  repeat' split
  all_goals simp_all [Printable, printable_hexDigit]

theorem printable_quoteChars (s : String) : Printable (quoteChars s) := by
  have hescaped : Printable (s.toList.flatMap escapeChar) := by
    intro c hc
    obtain ⟨d, -, hd⟩ := List.mem_flatMap.mp hc
    exact printable_escapeChar d c hd
  rw [quoteChars, printable_append, printable_cons]
  exact ⟨⟨by decide, hescaped⟩, by simp [Printable]⟩

/-! ### Numbers -/

theorem printable_of_isDigit {c : Char} (h : c.isDigit = true) : 0x20 ≤ c.toNat := by
  have hlow : '0'.toNat ≤ c.toNat := (Char.isDigit_iff_toNat.mp h).1
  exact Nat.le_trans (by decide) hlow

theorem printable_areDigits {cs : List Char} (h : AreDigits cs) : Printable cs :=
  fun c hc => printable_of_isDigit (h.2 c hc)

theorem printable_numberTail {cs : List Char} (h : NumberTail cs) : Printable cs := by
  have hsign : ∀ down : Bool, 0x20 ≤ (if down then '-' else '+').toNat := by decide
  cases h with
  | whole => exact printable_nil
  | fraction hds => exact printable_cons.mpr ⟨by decide, printable_areDigits hds⟩
  | exponent down hes =>
    rw [printable_cons, printable_cons]
    exact ⟨by decide, hsign down, printable_areDigits hes⟩
  | both down hds hes =>
    rw [printable_append, printable_cons, printable_cons, printable_cons]
    exact ⟨⟨by decide, printable_areDigits hds⟩, by decide, hsign down, printable_areDigits hes⟩

theorem Number.printable_render (n : Number) : Printable n.render.toList := by
  obtain ⟨cs, hcs, negative, hn⟩ := n.render_parts
  obtain ⟨ds, tail, rfl, hds, -, htail⟩ := hcs.parts
  rw [hn, printable_append, printable_append]
  refine ⟨?_, printable_areDigits hds, printable_numberTail htail⟩
  cases negative with
  | true => simp [Printable]
  | false => exact printable_nil

/-! ### Containers -/

theorem printable_separated (first : Bool) {l : List (List Char)} (h : ∀ cs ∈ l, Printable cs) :
    Printable (separated first l) := by
  induction l generalizing first with
  | nil =>
    rw [separated_nil]
    exact printable_nil
  | cons cs r ih =>
    rw [List.forall_mem_cons] at h
    have hboth : Printable (cs ++ separated false r) := printable_append.mpr ⟨h.1, ih false h.2⟩
    cases first with
    | true => exact hboth
    | false => exact printable_cons.mpr ⟨by decide, hboth⟩

theorem printable_arrayOf {l : List String} (h : ∀ s ∈ l, Printable s.toList) :
    Printable (arrayOf l).toList := by
  rw [toList_arrayOf, printable_append, printable_cons]
  refine ⟨⟨by decide, printable_separated true ?_⟩, by simp [Printable]⟩
  rw [List.forall_mem_map]
  exact h

theorem printable_objectOf {l : List (String × String)} (h : ∀ e ∈ l, Printable e.2.toList) :
    Printable (objectOf l).toList := by
  rw [toList_objectOf, printable_append, printable_cons]
  refine ⟨⟨by decide, printable_separated true ?_⟩, by simp [Printable]⟩
  rw [List.forall_mem_map]
  intro e he
  rw [entryChars, printable_append, printable_cons]
  exact ⟨printable_quoteChars e.1, by decide, h e he⟩

/-- What is written for a value holds no control characters. -/
theorem Value.printable_render (v : Value) : Printable v.render.toList := by
  induction v with
  | null => simp [Value.render, Printable]
  | bool b => cases b <;> simp [Value.render, Printable]
  | number n => exact n.printable_render
  | string s =>
    rw [Value.render, toList_quote]
    exact printable_quoteChars s
  | array items ih =>
    rw [Value.render, renderItems_eq_map]
    refine printable_arrayOf ?_
    rw [List.forall_mem_map]
    exact ih
  | object entries ih =>
    rw [Value.render, renderEntries_eq_map]
    refine printable_objectOf ?_
    rw [List.forall_mem_map]
    exact ih

end PolicyPack.Json
