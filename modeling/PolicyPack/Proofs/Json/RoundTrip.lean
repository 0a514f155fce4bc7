import PolicyPack.Json.Reader
import PolicyPack.Proofs.Json.Containers

/-!
# Reading values back

What is written for a value is read by any builder as what the builder makes of the value itself,
level by level. The nesting of the value decides whether it is read at all, and the data values that
come back are those that were written, up to what their floating-point numbers read as.
-/

namespace PolicyPack.Json

variable {α : Type}

/-! ### What a builder makes of a value -/

mutual

/-- What a builder makes of a value that may nest so many levels, numbers by way of their text. -/
def Builder.make (b : Builder α) : Nat → Value → Except Fault α
  | _, .null => .ok b.null
  | _, .bool x => .ok (b.bool x)
  | _, .number n => n.reread.map b.number
  | _, .string s => .ok (b.string s)
  | 0, .array _ => .error .tooDeep
  | levels + 1, .array items => (b.makeItems levels items).map b.array
  | 0, .object _ => .error .tooDeep
  | _ + 1, .object [] => .ok (b.object [])
  | levels + 1, .object ((k, v) :: r) => do
    let x ← b.make levels v
    match b.wrapped k x with
    | some y =>
      let y ← y
      if r.isEmpty then return y else throw .trailingComma
    | none => (b.makeEntries levels r).map fun es => b.object ((k, x) :: es)

/-- What a builder makes of items. -/
def Builder.makeItems (b : Builder α) (levels : Nat) : List Value → Except Fault (List α)
  | [] => .ok []
  | v :: r => do return (← b.make levels v) :: (← b.makeItems levels r)

/-- What a builder makes of entries. -/
def Builder.makeEntries (b : Builder α) (levels : Nat) :
    List (String × Value) → Except Fault (List (String × α))
  | [] => .ok []
  | (k, v) :: r => do return (k, ← b.make levels v) :: (← b.makeEntries levels r)

end

theorem Builder.makeItems_eq_mapM (b : Builder α) (levels : Nat) (l : List Value) :
    b.makeItems levels l = l.mapM (b.make levels) := by
  induction l with
  | nil => simp [makeItems]
  | cons v r ih => rw [makeItems, ih, List.mapM_cons]

theorem Builder.makeEntries_eq_mapM (b : Builder α) (levels : Nat) (l : List (String × Value)) :
    b.makeEntries levels l = l.mapM fun e => (b.make levels e.2).map fun x => (e.1, x) := by
  induction l with
  | nil => simp [makeEntries]
  | cons e r ih =>
    rw [makeEntries, ih, List.mapM_cons]
    cases b.make levels e.2 <;> rfl

/-! ### The text of a value -/

theorem Value.renderItems_eq_map (l : List Value) : Value.renderItems l = l.map Value.render := by
  induction l with
  | nil => simp [Value.renderItems]
  | cons v r ih => rw [Value.renderItems, ih, List.map_cons]

theorem Value.renderEntries_eq_map (l : List (String × Value)) :
    Value.renderEntries l = l.map fun e => (e.1, e.2.render) := by
  induction l with
  | nil => simp [Value.renderEntries]
  | cons e r ih => rw [Value.renderEntries, ih, List.map_cons]

theorem Value.toList_render_array (items : List Value) :
    (Value.array items).render.toList
      = '[' :: separated true (items.map fun v => v.render.toList) ++ [']'] := by
  rw [Value.render, Value.renderItems_eq_map, toList_arrayOf, List.map_map]
  rfl

theorem Value.toList_render_object (entries : List (String × Value)) :
    (Value.object entries).render.toList
      = '\x7b' :: separated true (entries.map fun e => entryChars e.1 e.2.render.toList)
        ++ ['\x7d'] := by
  rw [Value.render, Value.renderEntries_eq_map, toList_objectOf, List.map_map]
  rfl

/-- The first character of a number is a minus or a digit. -/
theorem Number.render_cons (n : Number) :
    ∃ c r, n.render.toList = c :: r ∧ (c = '-' ∨ c.isDigit = true) := by
  obtain ⟨cs, hcs, negative, hn⟩ := n.render_parts
  cases negative with
  | true => exact ⟨'-', cs, hn, .inl rfl⟩
  | false =>
    obtain ⟨c, r, rfl, hc⟩ := hcs.eq_cons
    exact ⟨c, r, hn, .inr hc⟩

theorem Value.render_begins (v : Value) : BeginsValue v.render.toList := by
  cases v with
  | null => exact ⟨'n', ['u', 'l', 'l'], rfl, rfl, by decide, by decide, by decide⟩
  | bool b =>
    cases b with
    | true => exact ⟨'t', ['r', 'u', 'e'], rfl, rfl, by decide, by decide, by decide⟩
    | false => exact ⟨'f', ['a', 'l', 's', 'e'], rfl, rfl, by decide, by decide, by decide⟩
  | number n =>
    obtain ⟨c, r, hn, hc⟩ := n.render_cons
    rw [Value.render, hn]
    rcases hc with rfl | hc
    · exact ⟨'-', r, rfl, rfl, by decide, by decide, by decide⟩
    · exact beginsValue_of_isDigit hc r
  | string s =>
    rw [Value.render, toList_quote, quoteChars]
    exact ⟨'"', _, rfl, rfl, by decide, by decide, by decide⟩
  | array items =>
    rw [Value.toList_render_array]
    exact ⟨'[', _, rfl, rfl, by decide, by decide, by decide⟩
  | object entries =>
    rw [Value.toList_render_object]
    exact ⟨'\x7b', _, rfl, rfl, by decide, by decide, by decide⟩

/-! ### Reading a value -/

theorem value_atom (b : Builder α) (levels : Nat) {c : Char} (hs : isSpace c = false)
    (ha : c ≠ '[') (ho : c ≠ '\x7b') (s : List Symbol) :
    value b levels (some c :: s) = atom b c s := by
  cases levels <;> simp [value, skipSpace_cons hs, ha, ho]

theorem atom_digit (b : Builder α) {c : Char} (h : c.isDigit = true) (s : List Symbol) :
    atom b c s = (number false (some c :: s)).map fun r => (b.number r.1, r.2) := by
  unfold atom
  split
  all_goals first | exact absurd h (by decide) | skip
  rw [if_pos h]
  cases number false (some c :: s) <;> rfl

theorem reads_number (b : Builder α) (levels : Nat) (n : Number) :
    Reads (value b levels) n.render.toList (n.reread.map b.number) := by
  intro t ht
  have hread := signedNumber_render n ht
  obtain ⟨c, r, hn, hc⟩ := n.render_cons
  rw [hn, List.map_cons, List.cons_append] at hread ⊢
  rcases hc with rfl | hc
  · rw [value_atom b levels rfl (by decide) (by decide), atom]
    rw [signedNumber] at hread
    rw [hread]
    cases n.reread <;> rfl
  · obtain ⟨d, r', hd, hs, -, -, -⟩ := beginsValue_of_isDigit hc r
    obtain ⟨rfl, -⟩ := List.cons.inj hd
    rw [value_atom b levels hs (by rintro rfl; exact absurd hc (by decide))
      (by rintro rfl; exact absurd hc (by decide)), atom_digit b hc]
    rw [signedNumber_digit hc] at hread
    rw [hread]
    cases n.reread <;> rfl

theorem value_array (b : Builder α) (levels : Nat) (s : List Symbol) :
    value b (levels + 1) (some '[' :: s)
      = (items (value b levels) (s.length + 1) true s).map fun r => (b.array r.1, r.2) := by
  simp only [value, skipSpace_cons (c := '[') rfl, if_true]
  cases items (value b levels) (s.length + 1) true s <;> rfl

theorem value_object (b : Builder α) (levels : Nat) (s : List Symbol) :
    value b (levels + 1) (some '\x7b' :: s) = object b (value b levels) s := by
  simp [value, skipSpace_cons (c := '\x7b') rfl]

theorem value_tooDeep (b : Builder α) {c : Char} (h : c = '[' ∨ c = '\x7b') (s : List Symbol) :
    value b 0 (some c :: s) = .error .tooDeep := by
  rcases h with rfl | rfl <;> rfl

theorem reads_array (b : Builder α) {levels : Nat} {l : List Value}
    (h : ∀ v ∈ l, Reads (value b levels) v.render.toList (b.make levels v)) :
    Reads (value b (levels + 1)) (Value.array l).render.toList
      ((b.makeItems levels l).map b.array) := by
  intro t ht
  have hread := items_whole (fun v _ => v.render_begins) h t
  rw [Value.toList_render_array, map_some_enclosed, value_array, hread, Builder.makeItems_eq_mapM]
  cases l.mapM (b.make levels) <;> rfl

/-- The first entry of an object decides whether the object is one; if not, it must be the only
entry. -/
theorem reads_object (b : Builder α) {levels : Nat} {l : List (String × Value)}
    (h : ∀ e ∈ l, Reads (value b levels) e.2.render.toList (b.make levels e.2)) :
    Reads (value b (levels + 1)) (Value.object l).render.toList
      (b.make (levels + 1) (.object l)) := by
  intro t ht
  rw [Value.toList_render_object, map_some_enclosed, value_object]
  cases l with
  | nil => simp [object, nextKey_end, Builder.make]
  | cons e r =>
    obtain ⟨k, v⟩ := e
    have hentry := reads_entryValue (h (k, v) (by simp)) k
      ((separated false (r.map fun e => entryChars e.1 e.2.render.toList)).map some
        ++ some '\x7d' :: t) (ends_separated _ (ends_brace t))
    rw [List.map_cons, object, nextKey_entry]
    simp only [ok_bind, hentry, Builder.make]
    cases b.make levels v with
    | error f => rfl
    | ok x =>
      simp only [map_ok, ok_bind]
      cases b.wrapped k x with
      | some y =>
        cases y with
        | error f => rfl
        | ok y =>
          cases r with
          | nil => simp [objectEnd, skipSpace_cons (c := '\x7d') rfl]
          | cons e r => simp [objectEnd, skipSpace_cons (c := ',') rfl]
      | none =>
        have hread : ∀ e ∈ r, Reads (entryValue (value b levels) e.1) (':' :: e.2.render.toList)
            ((b.make levels e.2).map fun x => (e.1, x)) :=
          fun e he => reads_entryValue (h e (by simp [he])) e.1
        have hrest := entries_whole hread false t
        simp only [hrest, Builder.makeEntries_eq_mapM]
        cases r.mapM fun e => (b.make levels e.2).map fun x => (e.1, x) <;> rfl

/-- Reading what is written for a value is making it by a builder, and leaves what follows. -/
theorem reads_value (b : Builder α) (v : Value) (levels : Nat) :
    Reads (value b levels) v.render.toList (b.make levels v) := by
  induction v generalizing levels with
  | null =>
    intro t _
    exact value_atom b levels rfl (by decide) (by decide) _
  | bool x =>
    intro t _
    cases x with
    | true => exact value_atom b levels rfl (by decide) (by decide) _
    | false => exact value_atom b levels rfl (by decide) (by decide) _
  | number n =>
    have h := reads_number b levels n
    cases levels <;> exact h
  | string s =>
    intro t _
    have hs := string_quoted s t
    rw [Value.render, toList_quote, quoteChars, map_some_enclosed,
      value_atom b levels rfl (by decide) (by decide), atom, hs]
    cases levels <;> rfl
  | array items ih =>
    cases levels with
    | zero =>
      intro t _
      rw [Value.toList_render_array]
      exact value_tooDeep b (.inl rfl) _
    | succ levels => exact reads_array b fun v hv => ih v hv levels
  | object entries ih =>
    cases levels with
    | zero =>
      intro t _
      rw [Value.toList_render_object]
      exact value_tooDeep b (.inr rfl) _
    | succ levels => exact reads_object b fun e he => ih e he levels

/-- A text that holds what is written for a value is that value to a builder. -/
theorem whole_value_render (b : Builder α) (levels : Nat) (v : Value) :
    whole (value b levels (symbolsOfText v.render)) = b.make levels v := by
  have h := reads_value b v levels [] ends_nil
  rw [List.append_nil] at h
  rw [symbolsOfText, h]
  cases b.make levels v <;> rfl

theorem Value.ofText_render (v : Value) :
    Value.ofText v.render = valueBuilder.make nestingLimit v := whole_value_render _ _ v

/-- A number reads back as its text does. -/
theorem Number.readsBack_iff {n : Number} : n.ReadsBack ↔ n.reread = .ok n := by
  have h : Value.ofText n.render = n.reread.map Value.number := by
    rw [← Value.render, Value.ofText_render]
    rfl
  rw [ReadsBack, h]
  cases n.reread <;> simp

theorem Number.readsBack_int {n : Int} (h : (Number.int n).InRange) : (Number.int n).ReadsBack :=
  readsBack_iff.mpr (reread_int h)

/-! ### Nesting and numbers decide -/

/-- The text of every number of the value reads as a number. -/
abbrev Value.NumbersRead : Value → Prop :=
  Value.Each (fun n => ∃ m, n.reread = .ok m) fun _ => True

/-- Every number of the value reads back. -/
abbrev Value.NumbersReadBack : Value → Prop := Value.Each Number.ReadsBack fun _ => True

theorem Builder.make_array (b : Builder α) (levels : Nat) (l : List Value) :
    b.make (levels + 1) (.array l) = (l.mapM (b.make levels)).map b.array := by
  rw [make, makeItems_eq_mapM]

/-- What an object is made of is made of each of its values. -/
theorem Builder.exists_make_entry {b : Builder α} {levels : Nat} {l : List (String × Value)} {x : α}
    (h : b.make (levels + 1) (.object l) = .ok x) {e : String × Value} (he : e ∈ l) :
    ∃ y, b.make levels e.2 = .ok y := by
  match l with
  | (k, v) :: r =>
    rw [make] at h
    obtain ⟨y, hy, h⟩ := bind_eq_ok.mp h
    rcases List.mem_cons.mp he with rfl | he
    · exact ⟨y, hy⟩
    · cases hw : b.wrapped k y with
      | some z =>
        rw [hw] at h
        obtain ⟨z, -, h⟩ := bind_eq_ok.mp h
        cases r with
        | nil => simp at he
        | cons e r => simp at h
      | none =>
        rw [hw, makeEntries_eq_mapM] at h
        obtain ⟨es, hes, -⟩ := map_eq_ok.mp h
        obtain ⟨z, -, hz⟩ := exists_of_mapM_eq_ok hes he
        obtain ⟨z, hz, -⟩ := map_eq_ok.mp hz
        exact ⟨z, hz⟩

/-- A value that a builder makes does not nest too deep, and its numbers are read. -/
theorem Builder.nesting_le_and_numbersRead {b : Builder α} {levels : Nat} {v : Value} {x : α}
    (h : b.make levels v = .ok x) : v.nesting ≤ levels ∧ v.NumbersRead := by
  induction v generalizing levels x with
  | null => exact ⟨Nat.zero_le _, .null⟩
  | bool c => exact ⟨Nat.zero_le _, .bool c⟩
  | string s => exact ⟨Nat.zero_le _, .string s⟩
  | number n =>
    have hn : (n.reread.map b.number) = .ok x := by cases levels <;> exact h
    obtain ⟨m, hm, -⟩ := map_eq_ok.mp hn
    exact ⟨Nat.zero_le _, .number ⟨m, hm⟩⟩
  | array l ih =>
    cases levels with
    | zero => cases h
    | succ levels =>
      rw [make_array] at h
      obtain ⟨xs, hxs, -⟩ := map_eq_ok.mp h
      have hl : ∀ v ∈ l, v.nesting ≤ levels ∧ v.NumbersRead := by
        intro v hv
        obtain ⟨y, -, hy⟩ := exists_of_mapM_eq_ok hxs hv
        exact ih v hv hy
      exact ⟨Value.nesting_array_le.mpr ⟨levels, rfl, fun v hv => (hl v hv).1⟩,
        .array fun v hv => (hl v hv).2⟩
  | object l ih =>
    cases levels with
    | zero => cases h
    | succ levels =>
      have hl : ∀ e ∈ l, e.2.nesting ≤ levels ∧ e.2.NumbersRead := by
        intro e he
        obtain ⟨y, hy⟩ := exists_make_entry h he
        exact ih e he hy
      exact ⟨Value.nesting_object_le.mpr ⟨levels, rfl, fun e he => (hl e he).1⟩,
        .object trivial fun e he => (hl e he).2⟩

/-! ### Data values -/

theorem make_object (levels : Nat) (l : List (String × Value)) :
    valueBuilder.make (levels + 1) (.object l)
      = (l.mapM fun e => (valueBuilder.make levels e.2).map fun x => (e.1, x)).map
          fun es => .object (Dictionary.ofList es) := by
  cases l with
  | nil => rfl
  | cons e r =>
    rw [Builder.make, List.mapM_cons, Builder.makeEntries_eq_mapM]
    cases valueBuilder.make levels e.2 with
    | error f => rfl
    | ok x =>
      have hwrapped : valueBuilder.wrapped e.1 x = none := rfl
      simp only [map_ok, ok_bind, hwrapped]
      cases r.mapM fun e => (valueBuilder.make levels e.2).map fun x => (e.1, x) <;> rfl

/-- Data whose numbers are read becomes data again, if it does not nest too deep. -/
theorem exists_make {levels : Nat} {v : Value} (hn : v.nesting ≤ levels) (hr : v.NumbersRead) :
    ∃ w, valueBuilder.make levels v = .ok w := by
  induction hr generalizing levels with
  | null => exact ⟨_, by cases levels <;> rfl⟩
  | bool b => exact ⟨_, by cases levels <;> rfl⟩
  | string s => exact ⟨_, by cases levels <;> rfl⟩
  | @number n h =>
    obtain ⟨m, hm⟩ := h
    exact ⟨.number m, by cases levels <;> simp [Builder.make, hm, valueBuilder]⟩
  | @array l _ ih =>
    obtain ⟨levels, rfl, hl⟩ := Value.nesting_array_le.mp hn
    obtain ⟨r, hr⟩ := exists_mapM_eq_ok fun v hv => ih v hv (hl v hv)
    exact ⟨.array r, by rw [Builder.make_array, hr]; rfl⟩
  | @object l _ _ ih =>
    obtain ⟨levels, rfl, hl⟩ := Value.nesting_object_le.mp hn
    obtain ⟨r, hr⟩ := exists_mapM_eq_ok (l := l)
      (f := fun e => (valueBuilder.make levels e.2).map fun x => (e.1, x)) fun e he => by
        obtain ⟨w, hw⟩ := ih e he (hl e he)
        exact ⟨(e.1, w), by rw [hw]; rfl⟩
    exact ⟨.object (Dictionary.ofList r), by rw [make_object, hr]; rfl⟩

/-- Data whose numbers are read has no other fault than its nesting. -/
theorem make_tooDeep {levels : Nat} {v : Value} (hn : levels < v.nesting) (hr : v.NumbersRead) :
    valueBuilder.make levels v = .error .tooDeep := by
  induction hr generalizing levels with
  | null => simp [Value.nesting] at hn
  | bool b => simp [Value.nesting] at hn
  | string s => simp [Value.nesting] at hn
  | number h => simp [Value.nesting] at hn
  | @array l h ih =>
    cases levels with
    | zero => rfl
    | succ levels =>
      have hdeep : ∃ v ∈ l, levels < v.nesting := by
        simpa [Value.nesting_array_le] using Nat.not_le.mpr hn
      have herror : l.mapM (valueBuilder.make levels) = .error .tooDeep := by
        refine mapM_eq_error (fun v hv => ?_) ?_
        · rcases Nat.lt_or_ge levels v.nesting with hlt | hge
          · exact .inr (ih v hv hlt)
          · exact .inl (exists_make hge (h v hv))
        · obtain ⟨v, hv, hlt⟩ := hdeep
          exact ⟨v, hv, ih v hv hlt⟩
      rw [Builder.make_array, herror]
      rfl
  | @object l _ h ih =>
    cases levels with
    | zero => cases l <;> rfl
    | succ levels =>
      have hdeep : ∃ e ∈ l, levels < e.2.nesting := by
        simpa [Value.nesting_object_le] using Nat.not_le.mpr hn
      have herror : (l.mapM fun e => (valueBuilder.make levels e.2).map fun x => (e.1, x))
          = .error .tooDeep := by
        refine mapM_eq_error (fun e he => ?_) ?_
        · rcases Nat.lt_or_ge levels e.2.nesting with hlt | hge
          · exact .inr (by rw [ih e he hlt]; rfl)
          · obtain ⟨w, hw⟩ := exists_make hge (h e he)
            exact .inl ⟨(e.1, w), by rw [hw]; rfl⟩
        · obtain ⟨e, he, hlt⟩ := hdeep
          exact ⟨e, he, by rw [ih e he hlt]; rfl⟩
      rw [make_object, herror]
      rfl

/-- Well-formed data whose numbers read back is made into itself. -/
theorem make_self {levels : Nat} {v : Value} (hn : v.nesting ≤ levels) (hv : v.WellFormed)
    (hr : v.NumbersReadBack) : valueBuilder.make levels v = .ok v := by
  induction v generalizing levels with
  | null => cases levels <;> rfl
  | bool b => cases levels <;> rfl
  | string s => cases levels <;> rfl
  | number n =>
    have hback := Number.readsBack_iff.mp (Value.each_number.mp hr)
    cases levels <;> simp [Builder.make, hback, valueBuilder]
  | array l ih =>
    obtain ⟨levels, rfl, hl⟩ := Value.nesting_array_le.mp hn
    have hself : l.mapM (valueBuilder.make levels) = .ok (l.map id) :=
      mapM_eq_ok_map fun x hx =>
        ih x hx (hl x hx) (Value.each_array.mp hv x hx) (Value.each_array.mp hr x hx)
    rw [Builder.make_array, hself, List.map_id]
    rfl
  | object l ih =>
    obtain ⟨levels, rfl, hl⟩ := Value.nesting_object_le.mp hn
    obtain ⟨hsorted, hentries⟩ := Value.each_object.mp hv
    have hself : (l.mapM fun e => (valueBuilder.make levels e.2).map fun x => (e.1, x))
        = .ok (l.map id) := by
      refine mapM_eq_ok_map fun e he => ?_
      rw [ih e he (hl e he) (hentries e he) ((Value.each_object.mp hr).2 e he)]
      rfl
    rw [make_object, hself, List.map_id, map_ok, hsorted.ofList_eq]

/-- Where a value is made, more levels change nothing. -/
theorem make_mono {levels more : Nat} {v w : Value} (h : valueBuilder.make levels v = .ok w)
    (hle : levels ≤ more) : valueBuilder.make more v = .ok w := by
  induction v generalizing levels more w with
  | null => cases levels <;> cases more <;> exact h
  | bool b => cases levels <;> cases more <;> exact h
  | string s => cases levels <;> cases more <;> exact h
  | number n => cases levels <;> cases more <;> exact h
  | array l ih =>
    cases levels with
    | zero => cases h
    | succ levels =>
      obtain ⟨more, rfl⟩ : ∃ k, more = k + 1 := ⟨more - 1, by omega⟩
      rw [Builder.make_array] at h ⊢
      obtain ⟨r, hr, hw⟩ := map_eq_ok.mp h
      have hmore := mapM_eq_ok_of_imp (fun x hx y hy => ih x hx hy (Nat.le_of_succ_le_succ hle)) hr
      rw [hmore, map_ok, hw]
  | object l ih =>
    cases levels with
    | zero => cases h
    | succ levels =>
      obtain ⟨more, rfl⟩ : ∃ k, more = k + 1 := ⟨more - 1, by omega⟩
      rw [make_object] at h ⊢
      obtain ⟨r, hr, hw⟩ := map_eq_ok.mp h
      have hmore : (l.mapM fun e => (valueBuilder.make more e.2).map fun x => (e.1, x)) = .ok r := by
        refine mapM_eq_ok_of_imp (fun e he y hy => ?_) hr
        obtain ⟨x, hx, hxy⟩ := map_eq_ok.mp hy
        rw [ih e he hx (Nat.le_of_succ_le_succ hle), map_ok, hxy]
      rw [hmore, map_ok, hw]

/-! ### Maps of values -/

/-- A map of data values is read as the object of its entries is made, from one level on. -/
theorem reads_mapOfValues (levels : Nat) (l : Dictionary Value) :
    ∃ x, Reads (mapOfValues levels) (Value.object l).render.toList x ∧
      x.map Value.object = valueBuilder.make levels (.object l) := by
  cases levels with
  | zero =>
    refine ⟨.error .tooDeep, fun t _ => ?_, by cases l <;> rfl⟩
    rw [Value.toList_render_object]
    simp [mapOfValues, skipSpace_cons (c := '\x7b') rfl]
  | succ levels =>
    refine ⟨_, fun t _ => ?_, by rw [make_object, map_map]⟩
    have hread : ∀ e ∈ l, Reads (entryValue (value valueBuilder levels) e.1)
        (':' :: e.2.render.toList) ((valueBuilder.make levels e.2).map fun x => (e.1, x)) :=
      fun e _ => reads_entryValue (reads_value valueBuilder e.2 levels) e.1
    have hentries := entries_whole hread true t
    rw [Value.toList_render_object, map_some_enclosed]
    simp only [mapOfValues, skipSpace_cons (c := '\x7b') rfl]
    rw [show anyValue levels = value valueBuilder levels from rfl, hentries]
    cases l.mapM fun e => (valueBuilder.make levels e.2).map fun x => (e.1, x) <;> rfl

end PolicyPack.Json
