import PolicyPack.Json.Typed
import PolicyPack.Proofs.Json.Numbers
import PolicyPack.Proofs.Json.QuotedText

/-!
# Reading containers back

Items and entries are written with commas between them. A reader that takes each of them as a whole
therefore takes the container as a whole: the loops over items, over entries and over the fields of
a record are followed here once, for all that is read through them.
-/

namespace PolicyPack.Json

universe u

variable {α : Type} {β : Type u}

/-- These characters are read with this result, and what follows them is left. -/
def Reads (read : List Symbol → Reading α) (cs : List Char) (x : Except Fault α) : Prop :=
  ∀ t, Ends t → read (cs.map some ++ t) = x.map fun y => (y, t)

/-- The characters begin with one that neither is blank nor separates or ends items. -/
def BeginsValue (cs : List Char) : Prop :=
  ∃ c r, cs = c :: r ∧ isSpace c = false ∧ c ≠ ',' ∧ c ≠ ']' ∧ c ≠ '\x7d'

theorem beginsValue_of_isDigit {c : Char} (h : c.isDigit = true) (r : List Char) :
    BeginsValue (c :: r) := by
  refine ⟨c, r, rfl, ?_, ?_, ?_, ?_⟩
  · cases hs : isSpace c with
    | false => rfl
    | true =>
      have hspace : c = ' ' ∨ c = '\n' ∨ c = '\t' ∨ c = '\r' := by
        simpa [isSpace, or_assoc] using hs
      rcases hspace with rfl | rfl | rfl | rfl <;> exact absurd h (by decide)
  all_goals
    rintro rfl
    exact absurd h (by decide)

theorem BeginsValue.ne_nil {cs : List Char} (h : BeginsValue cs) : cs ≠ [] := by
  obtain ⟨c, r, rfl, -⟩ := h
  simp

/-! ### Characters with commas -/

/-- Items with a comma before each but the first of a container. -/
def separated : Bool → List (List Char) → List Char
  | _, [] => []
  | true, cs :: r => cs ++ separated false r
  | false, cs :: r => ',' :: (cs ++ separated false r)

@[simp] theorem separated_nil (first : Bool) : separated first [] = [] := by cases first <;> rfl

@[simp] theorem separated_first (cs : List Char) (r : List (List Char)) :
    separated true (cs :: r) = cs ++ separated false r := rfl

@[simp] theorem separated_later (cs : List Char) (r : List (List Char)) :
    separated false (cs :: r) = ',' :: (cs ++ separated false r) := rfl

theorem toList_commas (l : List String) :
    (commas l).toList = separated true (l.map String.toList) := by
  rw [commas, String.toList_intercalate]
  induction l with
  | nil => rfl
  | cons s r ih =>
    cases r with
    | nil => simp
    | cons s' r => simpa using ih

theorem toList_arrayOf (l : List String) :
    (arrayOf l).toList = '[' :: separated true (l.map String.toList) ++ [']'] := by
  simp [arrayOf, String.toList_append, toList_commas]

/-- The characters of an entry. -/
def entryChars (k : String) (cs : List Char) : List Char := quoteChars k ++ ':' :: cs

theorem entryChars_ne_nil (k : String) (cs : List Char) : entryChars k cs ≠ [] := by
  simp [entryChars]

theorem toList_objectOf (l : List (String × String)) :
    (objectOf l).toList
      = '\x7b' :: separated true (l.map fun e => entryChars e.1 e.2.toList) ++ ['\x7d'] := by
  simp [objectOf, String.toList_append, toList_commas, entryChars, Function.comp_def]

theorem beginsValue_objectOf (l : List (String × String)) : BeginsValue (objectOf l).toList := by
  rw [toList_objectOf]
  exact ⟨'\x7b', _, rfl, rfl, by decide, by decide, by decide⟩

theorem length_le_separated (first : Bool) {l : List (List Char)} (h : ∀ cs ∈ l, cs ≠ []) :
    l.length ≤ (separated first l).length := by
  induction l generalizing first with
  | nil => simp
  | cons cs r ih =>
    have hr := ih false fun x hx => h x (by simp [hx])
    have hcs := List.length_pos_iff.mpr (h cs (by simp))
    cases first
    all_goals
      simp only [separated_first, separated_later, List.length_cons, List.length_append]
      omega

/-- The loops over a container may go round more often than there are items. -/
theorem length_lt_fuel (first : Bool) {l : List (List Char)} (h : ∀ cs ∈ l, cs ≠ [])
    (s : List Symbol) : l.length < ((separated first l).map some ++ s).length + 1 := by
  have hlength := length_le_separated first h
  simp only [List.length_append, List.length_map]
  omega

theorem ends_separated (l : List (List Char)) {t : List Symbol} (ht : Ends t) :
    Ends ((separated false l).map some ++ t) := by
  cases l with
  | nil => exact ht
  | cons cs r => exact ends_comma _

/-! ### Between the parts of a container -/

theorem skipSpace_cons {c : Char} (h : isSpace c = false) (s : List Symbol) :
    skipSpace (some c :: s) = some c :: s := by
  simp [skipSpace, h]

theorem nextItem_end (first : Bool) (t : List Symbol) :
    nextItem first (some ']' :: t) = .ok (false, t) := rfl

/-- The next item begins where its characters do, behind the comma if it is not the first. -/
theorem nextItem_begins (first : Bool) {cs : List Char} (h : BeginsValue cs)
    (l : List (List Char)) (t : List Symbol) :
    nextItem first ((separated first (cs :: l)).map some ++ t)
      = .ok (true, cs.map some ++ ((separated false l).map some ++ t)) := by
  obtain ⟨c, r, rfl, hs, hcomma, hend, -⟩ := h
  cases first with
  | true =>
    rw [separated_first, nextItem]
    simp only [List.map_append, List.map_cons, List.cons_append, List.append_assoc,
      skipSpace_cons hs]
    split <;> simp_all
  | false =>
    rw [separated_later, nextItem, List.map_cons, List.cons_append, skipSpace_cons rfl]
    simp only [Bool.false_eq_true, if_false, List.map_append, List.map_cons, List.cons_append,
      List.append_assoc, skipSpace_cons hs]
    split <;> simp_all

theorem nextKey_end (first : Bool) (t : List Symbol) :
    nextKey first (some '\x7d' :: t) = .ok (none, t) := rfl

theorem keyHere_quoted (k : String) (t : List Symbol) :
    keyHere ((quoteChars k).map some ++ t) = .ok (some k, t) := by
  rw [quoteChars, map_some_enclosed, keyHere, string_quoted]
  rfl

/-- The next key is that of the next entry, behind the comma if it is not the first. -/
theorem nextKey_entry (first : Bool) (k : String) (cs : List Char) (l : List (List Char))
    (t : List Symbol) :
    nextKey first ((separated first (entryChars k cs :: l)).map some ++ t)
      = .ok (some k, (':' :: cs).map some ++ ((separated false l).map some ++ t)) := by
  have h := keyHere_quoted k ((':' :: cs).map some ++ ((separated false l).map some ++ t))
  cases first with
  | true =>
    rw [← h, nextKey]
    simp [entryChars, quoteChars, skipSpace_cons (c := '"') rfl]
  | false =>
    rw [← h, nextKey]
    simp [entryChars, quoteChars, skipSpace_cons (c := '"') rfl, skipSpace_cons (c := ',') rfl]

theorem colon_here (t : List Symbol) : colon (some ':' :: t) = .ok ((), t) := rfl

/-! ### Items -/

section Items

variable {item : List Symbol → Reading α} {chars : β → List Char} {make : β → Except Fault α}
  {l : List β}

/-- Items with commas between them are read one by one, up to the first fault. -/
theorem items_separated (hbegin : ∀ x ∈ l, BeginsValue (chars x))
    (hread : ∀ x ∈ l, Reads item (chars x) (make x)) (fuel : Nat) (hfuel : l.length < fuel)
    (first : Bool) (t : List Symbol) :
    items item fuel first ((separated first (l.map chars)).map some ++ some ']' :: t)
      = (l.mapM make).map fun xs => (xs, t) := by
  induction l generalizing fuel first with
  | nil =>
    obtain ⟨fuel, rfl⟩ := Nat.exists_eq_add_of_lt hfuel
    simp [items, nextItem_end]
  | cons x l ih =>
    obtain ⟨fuel, rfl⟩ : ∃ n, fuel = n + 1 := ⟨fuel - 1, by simp at hfuel; omega⟩
    have hrest := ih (fun y hy => hbegin y (by simp [hy])) (fun y hy => hread y (by simp [hy]))
      fuel (by simpa using hfuel) false
    have hx := hread x (by simp) ((separated false (l.map chars)).map some ++ some ']' :: t)
      (ends_separated _ (ends_bracket t))
    have hnext := nextItem_begins first (hbegin x (by simp)) (l.map chars) (some ']' :: t)
    rw [List.map_cons, List.mapM_cons, items, hnext]
    simp only [ok_bind, if_true, hx]
    cases make x with
    | error f => rfl
    | ok y =>
      simp only [map_ok, ok_bind, hrest]
      cases l.mapM make <;> rfl

/-- All items of an array are read. -/
theorem items_whole (hbegin : ∀ x ∈ l, BeginsValue (chars x))
    (hread : ∀ x ∈ l, Reads item (chars x) (make x)) (t : List Symbol) :
    items item (((separated true (l.map chars)).map some ++ some ']' :: t).length + 1) true
        ((separated true (l.map chars)).map some ++ some ']' :: t)
      = (l.mapM make).map fun xs => (xs, t) := by
  have hne : ∀ cs ∈ l.map chars, cs ≠ [] := by
    intro cs hcs
    obtain ⟨x, hx, rfl⟩ := List.mem_map.mp hcs
    exact (hbegin x hx).ne_nil
  have hfuel := length_lt_fuel true hne (some ']' :: t)
  rw [List.length_map] at hfuel
  exact items_separated hbegin hread _ hfuel true t

end Items

/-! ### Entries -/

section Entries

variable {item : String → List Symbol → Reading α} {key : β → String} {chars : β → List Char}
  {make : β → Except Fault α} {l : List β}

/-- Entries with commas between them are read one by one, up to the first fault. -/
theorem entries_separated (hread : ∀ e ∈ l, Reads (item (key e)) (':' :: chars e) (make e))
    (fuel : Nat) (hfuel : l.length < fuel) (first : Bool) (t : List Symbol) :
    entries item fuel first
        ((separated first (l.map fun e => entryChars (key e) (chars e))).map some
          ++ some '\x7d' :: t)
      = (l.mapM make).map fun xs => (xs, t) := by
  induction l generalizing fuel first with
  | nil =>
    obtain ⟨fuel, rfl⟩ := Nat.exists_eq_add_of_lt hfuel
    simp [entries, nextKey_end]
  | cons e l ih =>
    obtain ⟨fuel, rfl⟩ : ∃ n, fuel = n + 1 := ⟨fuel - 1, by simp at hfuel; omega⟩
    have hrest := ih (fun y hy => hread y (by simp [hy])) fuel (by simpa using hfuel) false
    have he := hread e (by simp)
      ((separated false (l.map fun e => entryChars (key e) (chars e))).map some ++ some '\x7d' :: t)
      (ends_separated _ (ends_brace t))
    have hnext := nextKey_entry first (key e) (chars e)
      (l.map fun e => entryChars (key e) (chars e)) (some '\x7d' :: t)
    rw [List.map_cons, List.mapM_cons, entries, hnext]
    simp only [ok_bind, he]
    cases make e with
    | error f => rfl
    | ok y =>
      simp only [map_ok, ok_bind, hrest]
      cases l.mapM make <;> rfl

theorem entryChars_ne_nil_of_mem {cs : List Char}
    (h : cs ∈ l.map fun e => entryChars (key e) (chars e)) : cs ≠ [] := by
  obtain ⟨e, -, rfl⟩ := List.mem_map.mp h
  exact entryChars_ne_nil _ _

/-- All entries of an object are read, or all after the first. -/
theorem entries_whole (hread : ∀ e ∈ l, Reads (item (key e)) (':' :: chars e) (make e))
    (first : Bool) (t : List Symbol) :
    entries item
        (((separated first (l.map fun e => entryChars (key e) (chars e))).map some
          ++ some '\x7d' :: t).length + 1) first
        ((separated first (l.map fun e => entryChars (key e) (chars e))).map some
          ++ some '\x7d' :: t)
      = (l.mapM make).map fun xs => (xs, t) := by
  have hne : ∀ cs ∈ l.map fun e => entryChars (key e) (chars e), cs ≠ [] :=
    fun _ => entryChars_ne_nil_of_mem
  have hfuel := length_lt_fuel first hne (some '\x7d' :: t)
  rw [List.length_map] at hfuel
  exact entries_separated hread _ hfuel first t

theorem reads_entryValue {item : List Symbol → Reading α} {cs : List Char} {x : Except Fault α}
    (h : Reads item cs x) (k : String) :
    Reads (entryValue item k) (':' :: cs) (x.map fun y => (k, y)) := by
  intro t ht
  rw [List.map_cons, List.cons_append, entryValue, colon_here]
  simp only [ok_bind, h t ht]
  cases x <;> rfl

end Entries

/-! ### Texts, numbers and lists -/

theorem reads_text (x : String) : Reads text (quote x).toList (.ok x) := by
  intro t _
  rw [toList_quote, quoteChars, map_some_enclosed, text, skipSpace_cons rfl]
  exact string_quoted x t

/-- A number of 32 bits is read from its digits. -/
theorem reads_word32 {n : Nat} (h : n < 0x100000000) : Reads word32 (toString n).toList (.ok n) := by
  have hend : wordEnd = 0x10000000000000000 := rfl
  intro t ht
  have hread := takes_number false (numberText_toDigits n) t ht
  rw [number_toDigits false (by omega)] at hread
  obtain ⟨c, r, hcr, hc⟩ := (numberText_toDigits n).eq_cons
  obtain ⟨d, r', hd, hs, -⟩ := beginsValue_of_isDigit hc r
  obtain ⟨rfl, rfl⟩ := List.cons.inj hd
  have hsmall : (n : Int) < 0x100000000 := by omega
  rw [hcr, List.map_cons, List.cons_append] at hread
  rw [toList_toString_nat, hcr, List.map_cons, List.cons_append]
  simp only [word32, skipSpace_cons hs]
  split
  · next heq => cases heq
  · next heq =>
    cases heq
    exact absurd hc (by decide)
  · next heq =>
    cases heq
    simp [hc, hread, Scaled.toWhole, hsmall]
  · next hnot => exact absurd rfl (hnot c _)

theorem reads_listOf {item : Nat → List Symbol → Reading α} {levels : Nat} {text : β → String}
    {make : β → Except Fault α} {l : List β} (hbegin : ∀ x ∈ l, BeginsValue (text x).toList)
    (hread : ∀ x ∈ l, Reads (item levels) (text x).toList (make x)) :
    Reads (listOf item (levels + 1)) (arrayOf (l.map text)).toList (l.mapM make) := by
  intro t _
  rw [toList_arrayOf, List.map_map, map_some_enclosed, listOf, skipSpace_cons rfl]
  exact items_whole hbegin hread t

/-! ### Records -/

namespace Record

variable {σ : Type} {r : Record σ α} {levels : Nat}

/-- Reading entries into a draft, one field after the other, ends with a draft or with the fault of
a field. -/
inductive Fills (r : Record σ α) (levels : Nat) :
    σ → List (String × List Char) → Except Fault σ → Prop
  | done (d : σ) : Fills r levels d [] (.ok d)
  | field {d d' : σ} {k : String} {cs : List Char} {l : List (String × List Char)}
      {x : Except Fault σ} (f : Field σ) : (r.fields.find? fun f => f.name == k) = some f →
      f.present d = false → Reads (f.read levels d) cs (.ok d') → Fills r levels d' l x →
      Fills r levels d ((k, cs) :: l) x
  | fault {d : σ} {k : String} {cs : List Char} {l : List (String × List Char)} {e : Fault}
      (f : Field σ) : (r.fields.find? fun f => f.name == k) = some f → f.present d = false →
      Reads (f.read levels d) cs (.error e) → Fills r levels d ((k, cs) :: l) (.error e)

/-- A field takes what a reader reads into the draft. -/
theorem reads_field (f : Field σ) (levels : Nat) (d : σ) {read : List Symbol → Reading α}
    {cs : List Char} {x : Except Fault α} (h : Reads read cs x) (g : α → σ)
    (hf : ∀ s, f.read levels d s = show Except Fault (σ × List Symbol) from do
      let (y, s) ← read s
      return (g y, s)) :
    Reads (f.read levels d) cs (x.map g) := by
  intro t ht
  simp only [hf, h t ht]
  cases x <;> rfl

theorem ofEntries_separated {d : σ} {l : List (String × List Char)} {x : Except Fault σ}
    (h : r.Fills levels d l x) (fuel : Nat) (hfuel : l.length < fuel) (first : Bool)
    (t : List Symbol) :
    r.ofEntries levels fuel first d
        ((separated first (l.map fun e => entryChars e.1 e.2)).map some ++ some '\x7d' :: t)
      = (x >>= r.close).map fun y => (y, t) := by
  induction h generalizing fuel first with
  | done d =>
    obtain ⟨fuel, rfl⟩ := Nat.exists_eq_add_of_lt hfuel
    simp only [List.map_nil, separated_nil, List.nil_append, ofEntries, nextKey_end, ok_bind]
    cases r.close d <;> rfl
  | @field d d' k cs l x f hf hp hread _ ih =>
    obtain ⟨fuel, rfl⟩ : ∃ n, fuel = n + 1 := ⟨fuel - 1, by simp at hfuel; omega⟩
    have hrest := ih fuel (by simpa using hfuel) false
    have hends := ends_separated (l.map fun e => entryChars e.1 e.2) (ends_brace t)
    rw [List.map_cons, ofEntries, nextKey_entry]
    simp only [ok_bind, hf, hp, Bool.false_eq_true, if_false, List.map_cons, List.cons_append,
      colon_here, hread _ hends, map_ok]
    exact hrest
  | @fault d k cs l e f hf hp hread =>
    obtain ⟨fuel, rfl⟩ : ∃ n, fuel = n + 1 := ⟨fuel - 1, by simp at hfuel; omega⟩
    have hends := ends_separated (l.map fun e => entryChars e.1 e.2) (ends_brace t)
    rw [List.map_cons, ofEntries, nextKey_entry]
    simp only [ok_bind, hf, hp, Bool.false_eq_true, if_false, List.map_cons, List.cons_append,
      colon_here, hread _ hends, map_error, error_bind]

/-- A record written as an object is read field by field and closed. -/
theorem reads_object {l : List (String × String)} {x : Except Fault σ}
    (h : r.Fills levels r.blank (l.map fun e => (e.1, e.2.toList)) x) :
    Reads (r.read (levels + 1)) (objectOf l).toList (x >>= r.close) := by
  intro t ht
  have hne : ∀ cs ∈ l.map fun e => entryChars e.1 e.2.toList, cs ≠ [] :=
    fun _ => entryChars_ne_nil_of_mem
  have hfuel := length_lt_fuel true hne (some '\x7d' :: t)
  rw [List.length_map] at hfuel
  have hread := ofEntries_separated h _
    (Nat.lt_of_le_of_lt (Nat.le_of_eq (List.length_map _)) hfuel) true t
  rw [List.map_map] at hread
  rw [toList_objectOf, map_some_enclosed, Record.read, skipSpace_cons rfl]
  exact hread

end Record

end PolicyPack.Json
