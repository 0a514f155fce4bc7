import PolicyPack.Policy.Value
import PolicyPack.Proofs.Json.ReadValues

/-!
# Policy values as data

A policy value is written as data through its data value. Only numbers stand in the way: a value has
a data value when all numbers in it have one, those in the keys of its objects included. The data
values are well-formed.
-/

namespace PolicyPack.Policy.Value

/-- Induction on a value, with hypotheses for the items, the members, and both sides of entries. -/
@[elab_as_elim, induction_eliminator]
theorem induction {motive : Value → Prop} (null : motive .null) (bool : ∀ b, motive (.bool b))
    (number : ∀ d, motive (.number d)) (string : ∀ s, motive (.string s))
    (array : ∀ items, (∀ x ∈ items, motive x) → motive (.array items))
    (set : ∀ members, (∀ x ∈ members, motive x) → motive (.set members))
    (object : ∀ entries, (∀ e ∈ entries, motive e.1 ∧ motive e.2) → motive (.object entries))
    (v : Value) : motive v :=
  @Value.rec motive (fun l => ∀ x ∈ l, motive x) (fun l => ∀ e ∈ l, motive e.1 ∧ motive e.2)
    (fun e => motive e.1 ∧ motive e.2) null bool number string array set object (by simp)
    (fun _ _ hx hr y hy => (List.mem_cons.mp hy).elim (fun h => h ▸ hx) (hr y)) (by simp)
    (fun _ _ he hr f hf => (List.mem_cons.mp hf).elim (fun h => h ▸ he) (hr f))
    (fun _ _ hk hx => ⟨hk, hx⟩) v

/-- The numbers of a value, those in the keys of its objects included. -/
inductive Mentions (d : Decimal) : Value → Prop
  | number : Mentions d (.number d)
  | item {items : List Value} {x : Value} : x ∈ items → Mentions d x → Mentions d (.array items)
  | member {members : List Value} {x : Value} :
      x ∈ members → Mentions d x → Mentions d (.set members)
  | key {entries : List (Value × Value)} {e : Value × Value} :
      e ∈ entries → Mentions d e.1 → Mentions d (.object entries)
  | value {entries : List (Value × Value)} {e : Value × Value} :
      e ∈ entries → Mentions d e.2 → Mentions d (.object entries)

/-- A number of the value has no data number, since it lies past the floating-point range. -/
def Unwritable (v : Value) : Prop := ∃ d, v.Mentions d ∧ toNumber? d = none

/-! ### The parts of data values -/

/-- The text that a key becomes. -/
def keyText? : Value → Option String
  | .string s => some s
  | k => k.toData?.map Json.Value.render

/-- The entry that an entry becomes. -/
def entryToData? (e : Value × Value) : Option (String × Json.Value) := do
  return (← keyText? e.1, ← e.2.toData?)

theorem itemsToData?_eq_mapM (l : List Value) : itemsToData? l = l.mapM toData? := by
  induction l with
  | nil => rfl
  | cons v r ih =>
    rw [itemsToData?, ih, List.mapM_cons]

theorem entriesToData?_eq_mapM (l : List (Value × Value)) :
    entriesToData? l = l.mapM entryToData? := by
  induction l with
  | nil => rfl
  | cons e r ih =>
    obtain ⟨k, v⟩ := e
    rw [List.mapM_cons, ← ih]
    cases k <;> simp [entriesToData?, entryToData?, keyText?, Option.bind_assoc]

theorem keyText?_eq_none {k : Value} : keyText? k = none ↔ k.toData? = none := by
  cases k <;> simp [keyText?, toData?]

theorem entryToData?_eq_none {e : Value × Value} :
    entryToData? e = none ↔ e.1.toData? = none ∨ e.2.toData? = none := by
  rw [← keyText?_eq_none, entryToData?]
  cases keyText? e.1 with
  | none => simp
  | some k => cases e.2.toData? <;> simp

theorem entryToData?_eq_some {e : Value × Value} {f : String × Json.Value}
    (h : entryToData? e = some f) : e.2.toData? = some f.2 := by
  obtain ⟨k, -, h⟩ := Option.bind_eq_some_iff.mp h
  obtain ⟨x, hx, h⟩ := Option.bind_eq_some_iff.mp h
  cases h
  exact hx

/-! ### Which values have a data value -/

theorem unwritable_number {d : Decimal} : (number d).Unwritable ↔ toNumber? d = none := by
  constructor
  · rintro ⟨_, h, hd⟩
    cases h
    exact hd
  · intro hd
    exact ⟨d, .number, hd⟩

theorem unwritable_array {items : List Value} :
    (array items).Unwritable ↔ ∃ x ∈ items, x.Unwritable := by
  constructor
  · rintro ⟨d, h, hd⟩
    cases h with
    | item hx h => exact ⟨_, hx, d, h, hd⟩
  · rintro ⟨x, hx, d, h, hd⟩
    exact ⟨d, .item hx h, hd⟩

theorem unwritable_set {members : List Value} :
    (set members).Unwritable ↔ ∃ x ∈ members, x.Unwritable := by
  constructor
  · rintro ⟨d, h, hd⟩
    cases h with
    | member hx h => exact ⟨_, hx, d, h, hd⟩
  · rintro ⟨x, hx, d, h, hd⟩
    exact ⟨d, .member hx h, hd⟩

theorem unwritable_object {entries : List (Value × Value)} :
    (object entries).Unwritable ↔ ∃ e ∈ entries, e.1.Unwritable ∨ e.2.Unwritable := by
  constructor
  · rintro ⟨d, h, hd⟩
    cases h with
    | key he h => exact ⟨_, he, .inl ⟨d, h, hd⟩⟩
    | value he h => exact ⟨_, he, .inr ⟨d, h, hd⟩⟩
  · rintro ⟨e, he, ⟨d, h, hd⟩ | ⟨d, h, hd⟩⟩
    · exact ⟨d, .key he h, hd⟩
    · exact ⟨d, .value he h, hd⟩

/-- A value has no data value exactly when one of its numbers has none. -/
theorem toData?_eq_none {v : Value} : v.toData? = none ↔ v.Unwritable := by
  induction v with
  | null =>
    refine iff_of_false (by simp [toData?]) ?_
    rintro ⟨d, h, -⟩
    cases h
  | bool b =>
    refine iff_of_false (by simp [toData?]) ?_
    rintro ⟨d, h, -⟩
    cases h
  | string s =>
    refine iff_of_false (by simp [toData?]) ?_
    rintro ⟨d, h, -⟩
    cases h
  | number d => rw [toData?, Option.map_eq_none_iff, unwritable_number]
  | array items ih =>
    rw [toData?, Option.map_eq_none_iff, itemsToData?_eq_mapM, option_mapM_eq_none,
      unwritable_array]
    exact exists_congr fun x => and_congr_right fun hx => ih x hx
  | set members ih =>
    rw [toData?, Option.map_eq_none_iff, itemsToData?_eq_mapM, option_mapM_eq_none, unwritable_set]
    exact exists_congr fun x => and_congr_right fun hx => ih x hx
  | object entries ih =>
    rw [toData?, Option.map_eq_none_iff, entriesToData?_eq_mapM, option_mapM_eq_none,
      unwritable_object]
    refine exists_congr fun e => and_congr_right fun he => ?_
    rw [entryToData?_eq_none, (ih e he).1, (ih e he).2]

/-- Only a truth value becomes a truth value. -/
theorem toData?_eq_bool {v : Value} {b : Bool} : v.toData? = some (.bool b) ↔ v = .bool b := by
  cases v <;> simp [toData?]

/-! ### Data values are well-formed -/

theorem toNumber?_inRange {d : Decimal} {n : Json.Number} (h : toNumber? d = some n) :
    n.InRange := by
  simp only [toNumber?] at h
  generalize hread : Json.number (decide (d.coefficient < 0)) _ = read at h
  split at h
  · cases h
    exact Json.number_inRange hread
  · cases h

theorem itemsToData?_wellFormed {l : List Value} {xs : List Json.Value}
    (h : itemsToData? l = some xs) (hl : ∀ v ∈ l, ∀ x, v.toData? = some x → x.WellFormed) :
    (Json.Value.array xs).WellFormed := by
  rw [itemsToData?_eq_mapM] at h
  refine .array fun x hx => ?_
  obtain ⟨v, hv, hvx⟩ := exists_of_mem_option_mapM h hx
  exact hl v hv x hvx

theorem toData?_wellFormed {v : Value} {x : Json.Value} (h : v.toData? = some x) :
    x.WellFormed := by
  induction v generalizing x with
  | null =>
    cases h
    exact .null
  | bool b =>
    cases h
    exact .bool b
  | string s =>
    cases h
    exact .string s
  | number d =>
    obtain ⟨n, hn, rfl⟩ := Option.map_eq_some_iff.mp h
    exact .number (toNumber?_inRange hn)
  | array items ih =>
    obtain ⟨xs, hxs, rfl⟩ := Option.map_eq_some_iff.mp h
    exact itemsToData?_wellFormed hxs fun v hv _ => ih v hv
  | set members ih =>
    obtain ⟨xs, hxs, rfl⟩ := Option.map_eq_some_iff.mp h
    exact itemsToData?_wellFormed hxs fun v hv _ => ih v hv
  | object entries ih =>
    rw [toData?, entriesToData?_eq_mapM] at h
    obtain ⟨es, hes, rfl⟩ := Option.map_eq_some_iff.mp h
    refine Json.wellFormed_ofList fun f hf => ?_
    obtain ⟨e, he, hef⟩ := exists_of_mem_option_mapM hes hf
    exact (ih e he).2 (entryToData?_eq_some hef)

end PolicyPack.Policy.Value
