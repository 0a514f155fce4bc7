import PolicyPack.Json.Reader
import PolicyPack.Proofs.Json.Values
import PolicyPack.Proofs.Outcome

/-!
# What is read is well-formed

A reader of data values makes whole numbers only of digits that fit 64 bits, and objects only as
dictionaries. So every value that is read is well-formed, whatever the text.
-/

namespace PolicyPack.Json

/-! ### Numbers -/

theorem toFloat_inRange {negative : Bool} {x : Scaled} {n : Number}
    (h : x.toFloat negative = .ok n) : n.InRange := by
  unfold Scaled.toFloat at h
  obtain ⟨y, -, h⟩ := bind_eq_ok.mp h
  cases h
  exact trivial

theorem addWhole_significand_lt {x : Scaled} (hx : x.significand < wordEnd) (ds : List Nat) :
    (x.addWhole ds).significand < wordEnd := by
  induction ds generalizing x with
  | nil => exact hx
  | cons d ds ih =>
    rw [Scaled.addWhole]
    split
    · next h => exact ih h
    · exact hx

theorem toWhole_inRange {negative : Bool} {x : Scaled} {n : Number}
    (hx : x.significand < wordEnd) (h : x.toWhole negative = .ok n) : n.InRange := by
  have hend : wordEnd = 0x10000000000000000 := rfl
  unfold Scaled.toWhole at h
  split at h
  · exact toFloat_inRange h
  · split at h
    · cases h
      refine ⟨?_, ?_⟩ <;> omega
    · split at h
      · exact toFloat_inRange h
      · next hsize =>
        cases h
        simp only [Bool.or_eq_true, decide_eq_true_eq, not_or] at hsize
        refine ⟨?_, ?_⟩ <;> omega

theorem exponentPart_inRange {negative : Bool} {x : Scaled} {s t : List Symbol} {n : Number}
    (h : exponentPart negative x s = .ok (n, t)) : n.InRange := by
  unfold exponentPart at h
  simp only [throw_eq_error, error_bind] at h
  split at h
  all_goals
    split at h
    · cases h
    · split at h
      · cases h
      · obtain ⟨m, hm, h⟩ := bind_eq_ok.mp h
        cases h
        exact toFloat_inRange hm

theorem afterWhole_inRange {negative : Bool} {x : Scaled} {s t : List Symbol} {n : Number}
    (hx : x.significand < wordEnd) (h : afterWhole negative x s = .ok (n, t)) : n.InRange := by
  unfold afterWhole at h
  split at h
  · simp only [throw_eq_error, error_bind] at h
    split at h
    · cases h
    · split at h
      · exact exponentPart_inRange h
      · exact exponentPart_inRange h
      · obtain ⟨m, hm, h⟩ := bind_eq_ok.mp h
        cases h
        exact toFloat_inRange hm
  · exact exponentPart_inRange h
  · exact exponentPart_inRange h
  · obtain ⟨m, hm, h⟩ := bind_eq_ok.mp h
    cases h
    exact toWhole_inRange hx hm

theorem number_inRange {negative : Bool} {s t : List Symbol} {n : Number}
    (h : number negative s = .ok (n, t)) : n.InRange := by
  unfold number at h
  split at h
  · cases h
  · cases h
  · cases h
  · exact afterWhole_inRange (addWhole_significand_lt (show 0 < wordEnd by decide) _) h

/-! ### Containers -/

section Containers

variable {α : Type} {P : α → Prop}

theorem items_all {item : List Symbol → Reading α} (hitem : ∀ s x t, item s = .ok (x, t) → P x)
    {fuel : Nat} {first : Bool} {s t : List Symbol} {xs : List α}
    (h : items item fuel first s = .ok (xs, t)) : ∀ x ∈ xs, P x := by
  induction fuel generalizing first s xs with
  | zero => cases h
  | succ fuel ih =>
    rw [items] at h
    obtain ⟨⟨more, s₁⟩, -, h⟩ := bind_eq_ok.mp h
    cases more with
    | false =>
      cases h
      simp
    | true =>
      obtain ⟨⟨x, s₂⟩, hx, h⟩ := bind_eq_ok.mp h
      obtain ⟨⟨r, s₃⟩, hr, h⟩ := bind_eq_ok.mp h
      cases h
      intro y hy
      rcases List.mem_cons.mp hy with rfl | hy
      · exact hitem _ _ _ hx
      · exact ih hr y hy

theorem entries_all {item : String → List Symbol → Reading α}
    (hitem : ∀ k s x t, item k s = .ok (x, t) → P x) {fuel : Nat} {first : Bool}
    {s t : List Symbol} {xs : List α} (h : entries item fuel first s = .ok (xs, t)) :
    ∀ x ∈ xs, P x := by
  induction fuel generalizing first s xs with
  | zero => cases h
  | succ fuel ih =>
    rw [entries] at h
    obtain ⟨⟨key, s₁⟩, -, h⟩ := bind_eq_ok.mp h
    cases key with
    | none =>
      cases h
      simp
    | some k =>
      obtain ⟨⟨x, s₂⟩, hx, h⟩ := bind_eq_ok.mp h
      obtain ⟨⟨r, s₃⟩, hr, h⟩ := bind_eq_ok.mp h
      cases h
      intro y hy
      rcases List.mem_cons.mp hy with rfl | hy
      · exact hitem _ _ _ _ hx
      · exact ih hr y hy

theorem entryValue_snd {item : List Symbol → Reading α} (hitem : ∀ s x t, item s = .ok (x, t) → P x)
    {k : String} {s t : List Symbol} {e : String × α} (h : entryValue item k s = .ok (e, t)) :
    P e.2 := by
  rw [entryValue] at h
  obtain ⟨⟨_, s₁⟩, -, h⟩ := bind_eq_ok.mp h
  obtain ⟨⟨x, s₂⟩, hx, h⟩ := bind_eq_ok.mp h
  cases h
  exact hitem _ _ _ hx

end Containers

/-! ### Values -/

theorem wellFormed_ofList {l : List (String × Value)} (h : ∀ e ∈ l, e.2.WellFormed) :
    (Value.object (Dictionary.ofList l)).WellFormed :=
  .object (Dictionary.sorted_ofList l) fun e he => h e (Dictionary.mem_of_mem_ofList he)

theorem object_wellFormed {item : List Symbol → Reading Value}
    (hitem : ∀ s x t, item s = .ok (x, t) → x.WellFormed) {s t : List Symbol} {v : Value}
    (h : object valueBuilder item s = .ok (v, t)) : v.WellFormed := by
  unfold object at h
  obtain ⟨⟨key, s₁⟩, -, h⟩ := bind_eq_ok.mp h
  cases key with
  | none =>
    cases h
    exact wellFormed_ofList (by simp)
  | some k =>
    obtain ⟨⟨e, s₂⟩, he, h⟩ := bind_eq_ok.mp h
    obtain ⟨⟨es, s₃⟩, hes, h⟩ := bind_eq_ok.mp h
    cases h
    refine wellFormed_ofList fun f hf => ?_
    rcases List.mem_cons.mp hf with rfl | hf
    · exact entryValue_snd hitem he
    · exact entries_all (fun _ _ _ _ h => entryValue_snd hitem h) hes f hf

theorem atom_wellFormed {c : Char} {s t : List Symbol} {v : Value}
    (h : atom valueBuilder c s = .ok (v, t)) : v.WellFormed := by
  unfold atom at h
  split at h
  · obtain ⟨_, -, h⟩ := bind_eq_ok.mp h
    cases h
    exact .null
  · obtain ⟨_, -, h⟩ := bind_eq_ok.mp h
    cases h
    exact .bool true
  · obtain ⟨_, -, h⟩ := bind_eq_ok.mp h
    cases h
    exact .bool false
  · obtain ⟨⟨n, _⟩, hn, h⟩ := bind_eq_ok.mp h
    cases h
    exact .number (number_inRange hn)
  · obtain ⟨⟨x, _⟩, -, h⟩ := bind_eq_ok.mp h
    cases h
    exact .string x
  · split at h
    · obtain ⟨⟨n, _⟩, hn, h⟩ := bind_eq_ok.mp h
      cases h
      exact .number (number_inRange hn)
    · cases h

/-- A data value that is read is well-formed. -/
theorem value_wellFormed {levels : Nat} {s t : List Symbol} {v : Value}
    (h : value valueBuilder levels s = .ok (v, t)) : v.WellFormed := by
  induction levels generalizing s t v with
  | zero =>
    simp only [value] at h
    split at h
    · cases h
    · cases h
    · split at h
      · cases h
      · exact atom_wellFormed h
  | succ levels ih =>
    have hitem : ∀ s x t, value valueBuilder levels s = .ok (x, t) → x.WellFormed :=
      fun _ _ _ h => ih h
    simp only [value] at h
    split at h
    · cases h
    · cases h
    · split at h
      · obtain ⟨⟨xs, _⟩, hxs, h⟩ := bind_eq_ok.mp h
        cases h
        exact .array (items_all hitem hxs)
      · split at h
        · exact object_wellFormed hitem h
        · exact atom_wellFormed h

theorem whole_eq_ok {α : Type} {r : Reading α} {x : α} (h : whole r = .ok x) :
    ∃ t, r = .ok (x, t) := by
  unfold whole at h
  obtain ⟨⟨y, t⟩, hr, h⟩ := bind_eq_ok.mp h
  simp only at h
  split at h
  · cases h
    exact ⟨t, hr⟩
  · cases h

theorem Value.ofText_wellFormed {text : String} {v : Value} (h : Value.ofText text = .ok v) :
    v.WellFormed := by
  obtain ⟨t, ht⟩ := whole_eq_ok h
  exact value_wellFormed ht

end PolicyPack.Json
