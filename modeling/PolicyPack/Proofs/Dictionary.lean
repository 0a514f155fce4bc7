import PolicyPack.Dictionary

/-!
# Sorted dictionaries

Insertion keeps a dictionary sorted, and a sorted dictionary is determined by its lookups. A list
that is sorted already is its own dictionary, which is what makes reading and writing of objects
inverse to each other.
-/

namespace PolicyPack.Dictionary

universe u

variable {α : Type u} {d e : Dictionary α} {k l : String} {x : α}

theorem sorted_nil : Sorted ([] : Dictionary α) := List.Pairwise.nil

theorem sorted_cons {a : String × α} {r : Dictionary α} :
    Sorted (a :: r) ↔ (∀ b ∈ r, a.1 < b.1) ∧ Sorted r := List.pairwise_cons

instance decidableSorted (d : Dictionary α) : Decidable (Sorted d) :=
  inferInstanceAs (Decidable (d.Pairwise fun a b => a.1 < b.1))

theorem ne_of_lt (h : k < l) : k ≠ l := fun he => String.lt_irrefl l (he ▸ h)

/-! ### Lookups -/

theorem find?_cons_self (k : String) (x : α) (r : Dictionary α) :
    find? k ((k, x) :: r) = some x := by simp [find?_cons]

theorem find?_cons_of_ne {a : String × α} (h : a.1 ≠ k) (r : Dictionary α) :
    find? k (a :: r) = find? k r := by simp [find?_cons, h]

theorem find?_eq_none (h : ∀ a ∈ d, a.1 ≠ k) : find? k d = none := by
  induction d with
  | nil => rfl
  | cons a r ih =>
    rw [find?_cons_of_ne (h a (by simp))]
    exact ih fun b hb => h b (by simp [hb])

theorem find?_append (k : String) (d e : Dictionary α) :
    find? k (d ++ e) = (find? k d).or (find? k e) := by
  induction d with
  | nil => rfl
  | cons a r ih =>
    rw [List.cons_append, find?_cons, find?_cons]
    by_cases ha : a.1 = k
    · simp [ha]
    · simpa [ha] using ih

theorem mem_of_find? (h : find? k d = some x) : (k, x) ∈ d := by
  induction d with
  | nil => simp at h
  | cons a r ih =>
    by_cases ha : a.1 = k
    · have hx : a.2 = x := by simpa [find?_cons, ha] using h
      simp [← ha, ← hx]
    · rw [find?_cons_of_ne ha] at h
      exact List.mem_cons_of_mem _ (ih h)

/-- The first key of a sorted dictionary is none of its other keys. -/
theorem Sorted.find?_tail {a : String × α} {r : Dictionary α} (h : Sorted (a :: r)) :
    find? a.1 r = none :=
  find?_eq_none fun b hb he => String.lt_irrefl a.1 (he ▸ (sorted_cons.mp h).1 b hb)

/-- Sorted dictionaries with the same lookups are the same. -/
theorem Sorted.find?_eq_some (h : Sorted d) : find? k d = some x ↔ (k, x) ∈ d := by
  refine ⟨mem_of_find?, fun hm => ?_⟩
  induction d with
  | nil => cases hm
  | cons a r ih =>
    obtain ⟨hlt, hr⟩ := sorted_cons.mp h
    rcases List.mem_cons.mp hm with rfl | hm
    · exact find?_cons_self k x r
    · rw [find?_cons_of_ne (ne_of_lt (hlt _ hm))]
      exact ih hr hm

theorem Sorted.ext (hd : Sorted d) (he : Sorted e) (h : ∀ k, find? k d = find? k e) : d = e := by
  induction d generalizing e with
  | nil =>
    cases e with
    | nil => rfl
    | cons b s => simpa [find?_cons] using h b.1
  | cons a r ih =>
    cases e with
    | nil => simpa [find?_cons] using h a.1
    | cons b s =>
      obtain ⟨ha, hr⟩ := sorted_cons.mp hd
      obtain ⟨hb, hs⟩ := sorted_cons.mp he
      have hab : (a.1, a.2) ∈ b :: s := mem_of_find? (by rw [← h]; exact find?_cons_self ..)
      have hba : (b.1, b.2) ∈ a :: r := mem_of_find? (by rw [h]; exact find?_cons_self ..)
      -- the heads are equal, since each would otherwise be greater than the other
      have hab' : a = b := by
        rcases List.mem_cons.mp hab with h₁ | h₁
        · exact h₁
        · rcases List.mem_cons.mp hba with h₂ | h₂
          · exact h₂.symm
          · exact absurd (ha _ h₂) (String.lt_asymm (hb _ h₁))
      subst hab'
      congr 1
      refine ih hr hs fun k => ?_
      by_cases hk : a.1 = k
      · rw [← hk, hd.find?_tail, he.find?_tail]
      · simpa [find?_cons, hk] using h k

/-! ### Insertion -/

theorem mem_insert {a : String × α} (h : a ∈ insert k x d) : a = (k, x) ∨ a ∈ d := by
  induction d with
  | nil => simpa [insert] using h
  | cons b r ih =>
    simp only [insert] at h
    split at h
    · simpa using h
    · split at h
      · rcases List.mem_cons.mp h with h | h
        · exact .inl h
        · exact .inr (by simp [h])
      · rcases List.mem_cons.mp h with h | h
        · exact .inr (by simp [h])
        · rcases ih h with h | h
          · exact .inl h
          · exact .inr (by simp [h])

/-- A key that is not there is put next to the others. -/
theorem insert_perm (h : find? k d = none) : (insert k x d).Perm ((k, x) :: d) := by
  induction d with
  | nil => exact .refl _
  | cons a r ih =>
    rw [find?_cons] at h
    split at h
    · cases h
    · next hne =>
      rw [Dictionary.insert]
      split
      · exact .refl _
      · rw [if_neg (Ne.symm hne)]
        exact ((ih h).cons a).trans (.swap _ a r)

theorem Sorted.nodup (hd : Sorted d) : (d.map Prod.fst).Nodup :=
  List.pairwise_map.mpr (hd.imp ne_of_lt)

theorem Sorted.insert (hd : Sorted d) (k : String) (x : α) : Sorted (insert k x d) := by
  induction d with
  | nil => exact sorted_cons.mpr ⟨by simp, sorted_nil⟩
  | cons b r ih =>
    obtain ⟨hb, hr⟩ := sorted_cons.mp hd
    simp only [Dictionary.insert]
    split
    · next hk =>
      refine sorted_cons.mpr ⟨fun a ha => ?_, hd⟩
      rcases List.mem_cons.mp ha with rfl | ha
      · exact hk
      · exact String.lt_trans hk (hb a ha)
    · next hk =>
      split
      · next he => exact sorted_cons.mpr ⟨by simpa [he] using hb, hr⟩
      · next hne =>
        refine sorted_cons.mpr ⟨fun a ha => ?_, ih hr⟩
        rcases mem_insert ha with rfl | ha
        · -- a key that is neither less than nor equal to the head is greater
          exact Classical.byContradiction fun hlt =>
            hne (String.le_antisymm (String.not_lt.mp hlt) (String.not_lt.mp hk))
        · exact hb a ha

theorem find?_insert (k l : String) (x : α) (d : Dictionary α) :
    find? l (insert k x d) = if k = l then some x else find? l d := by
  by_cases h : k = l
  · simp [h]
  · simp [h, find?_insert_of_ne h]

/-- A key past all others goes to the end. -/
theorem insert_last (h : ∀ a ∈ d, a.1 < k) : insert k x d = d ++ [(k, x)] := by
  induction d with
  | nil => rfl
  | cons b r ih =>
    have hb := h b (by simp)
    have hr := ih fun a ha => h a (by simp [ha])
    simp [insert, String.lt_asymm hb, (ne_of_lt hb).symm, hr]

/-! ### Dictionaries of lists -/

theorem Sorted.foldl_insert (l : List (String × α)) (hd : Sorted d) :
    Sorted (l.foldl (fun d a => Dictionary.insert a.1 a.2 d) d) := by
  induction l generalizing d with
  | nil => exact hd
  | cons a r ih => exact ih (hd.insert a.1 a.2)

theorem sorted_ofList (l : List (String × α)) : Sorted (ofList l) := sorted_nil.foldl_insert l

theorem mem_foldl_insert {l : List (String × α)} {a : String × α}
    (h : a ∈ l.foldl (fun d b => insert b.1 b.2 d) d) : a ∈ l ∨ a ∈ d := by
  induction l generalizing d with
  | nil => exact .inr h
  | cons b r ih =>
    rcases ih h with h | h
    · exact .inl (by simp [h])
    · rcases mem_insert h with h | h
      · exact .inl (by simp [h])
      · exact .inr h

theorem mem_of_mem_ofList {l : List (String × α)} {a : String × α} (h : a ∈ ofList l) : a ∈ l := by
  simpa using mem_foldl_insert h

/-- Inserting sorted entries one by one after smaller ones appends them. -/
theorem foldl_insert_of_sorted (he : Sorted e) (h : ∀ a ∈ d, ∀ b ∈ e, a.1 < b.1) :
    e.foldl (fun d a => insert a.1 a.2 d) d = d ++ e := by
  induction e generalizing d with
  | nil => simp
  | cons b r ih =>
    obtain ⟨hb, hr⟩ := sorted_cons.mp he
    have hlast : insert b.1 b.2 d = d ++ [b] := insert_last fun a ha => h a ha b (by simp)
    rw [List.foldl_cons, hlast, ih hr, List.append_assoc, List.singleton_append]
    intro a ha c hc
    rcases List.mem_append.mp ha with ha | ha
    · exact h a ha c (by simp [hc])
    · rw [List.mem_singleton.mp ha]
      exact hb c hc

/-- Entries that are sorted already are their own dictionary. -/
theorem Sorted.ofList_eq (he : Sorted e) : ofList e = e :=
  foldl_insert_of_sorted (d := []) he (by simp)

end PolicyPack.Dictionary
