import PolicyPack.Json.Value
import PolicyPack.Proofs.Dictionary

/-!
# Well-formed data values

Induction on values goes through items and entries alike. A value is well-formed when its whole
numbers fit 64 bits and its objects are sorted by key, and its nesting is the number of sequences
and objects that lie one inside the other.
-/

namespace PolicyPack.Json

/-- Induction on a value, with a hypothesis for each item and for each entry. -/
@[elab_as_elim, induction_eliminator]
theorem Value.induction {motive : Value → Prop} (null : motive .null)
    (bool : ∀ b, motive (.bool b)) (number : ∀ n, motive (.number n))
    (string : ∀ s, motive (.string s))
    (array : ∀ items, (∀ x ∈ items, motive x) → motive (.array items))
    (object : ∀ entries, (∀ e ∈ entries, motive e.2) → motive (.object entries))
    (v : Value) : motive v :=
  @Value.rec motive (fun l => ∀ x ∈ l, motive x) (fun l => ∀ e ∈ l, motive e.2)
    (fun e => motive e.2) null bool number string array object (by simp)
    (fun _ _ hx hr y hy => (List.mem_cons.mp hy).elim (fun h => h ▸ hx) (hr y)) (by simp)
    (fun _ _ he hr f hf => (List.mem_cons.mp hf).elim (fun h => h ▸ he) (hr f)) (fun _ _ h => h) v

/-! ### Conditions on the parts of a value -/

/-- Every number of a value and the entries of each of its objects meet a condition. -/
inductive Value.Each (onNumber : Number → Prop) (onEntries : List (String × Value) → Prop) :
    Value → Prop
  | null : Each onNumber onEntries .null
  | bool (b : Bool) : Each onNumber onEntries (.bool b)
  | number {n : Number} : onNumber n → Each onNumber onEntries (.number n)
  | string (s : String) : Each onNumber onEntries (.string s)
  | array {items : List Value} : (∀ x ∈ items, Each onNumber onEntries x) →
      Each onNumber onEntries (.array items)
  | object {entries : List (String × Value)} : onEntries entries →
      (∀ e ∈ entries, Each onNumber onEntries e.2) → Each onNumber onEntries (.object entries)

section Each

variable {onNumber : Number → Prop} {onEntries : List (String × Value) → Prop}

@[simp] theorem Value.each_null : Value.Each onNumber onEntries .null := .null

@[simp] theorem Value.each_bool (b : Bool) : Value.Each onNumber onEntries (.bool b) := .bool b

@[simp] theorem Value.each_string (s : String) : Value.Each onNumber onEntries (.string s) :=
  .string s

@[simp] theorem Value.each_number {n : Number} :
    Value.Each onNumber onEntries (.number n) ↔ onNumber n :=
  ⟨fun h => by cases h; assumption, .number⟩

@[simp] theorem Value.each_array {items : List Value} :
    Value.Each onNumber onEntries (.array items) ↔ ∀ x ∈ items, Value.Each onNumber onEntries x :=
  ⟨fun h => by cases h; assumption, .array⟩

@[simp] theorem Value.each_object {entries : List (String × Value)} :
    Value.Each onNumber onEntries (.object entries) ↔
      onEntries entries ∧ ∀ e ∈ entries, Value.Each onNumber onEntries e.2 :=
  ⟨fun h => by cases h; exact ⟨‹_›, ‹_›⟩, fun h => .object h.1 h.2⟩

end Each

/-- A whole number fits 64 bits, signed or not. -/
def Number.InRange : Number → Prop
  | .int n => -0x8000000000000000 ≤ n ∧ n < 0x10000000000000000
  | .float _ => True

/-- Whole numbers fit 64 bits, and objects are sorted by key. -/
abbrev Value.WellFormed : Value → Prop := Value.Each Number.InRange Dictionary.Sorted

/-! ### Nesting -/

mutual

/-- How many sequences and objects lie one inside the other, the value itself included. -/
def Value.nesting : Value → Nat
  | .array items => Value.itemsNesting items + 1
  | .object entries => Value.entriesNesting entries + 1
  | _ => 0

/-- The greatest nesting of the values. -/
def Value.itemsNesting : List Value → Nat
  | [] => 0
  | v :: r => max v.nesting (Value.itemsNesting r)

/-- The greatest nesting of the values under keys. -/
def Value.entriesNesting : List (String × Value) → Nat
  | [] => 0
  | (_, v) :: r => max v.nesting (Value.entriesNesting r)

end

theorem Value.itemsNesting_le {items : List Value} {n : Nat} :
    Value.itemsNesting items ≤ n ↔ ∀ x ∈ items, x.nesting ≤ n := by
  induction items with
  | nil => simp [Value.itemsNesting]
  | cons v r ih => rw [Value.itemsNesting, Nat.max_le, ih, List.forall_mem_cons]

theorem Value.entriesNesting_le {entries : List (String × Value)} {n : Nat} :
    Value.entriesNesting entries ≤ n ↔ ∀ e ∈ entries, e.2.nesting ≤ n := by
  induction entries with
  | nil => simp [Value.entriesNesting]
  | cons e r ih => rw [Value.entriesNesting, Nat.max_le, ih, List.forall_mem_cons]

theorem Value.nesting_array_le {items : List Value} {n : Nat} :
    (Value.array items).nesting ≤ n ↔ ∃ k, n = k + 1 ∧ ∀ x ∈ items, x.nesting ≤ k := by
  rw [Value.nesting]
  cases n with
  | zero => simp
  | succ n => simp [itemsNesting_le]

theorem Value.nesting_object_le {entries : List (String × Value)} {n : Nat} :
    (Value.object entries).nesting ≤ n ↔ ∃ k, n = k + 1 ∧ ∀ e ∈ entries, e.2.nesting ≤ k := by
  rw [Value.nesting]
  cases n with
  | zero => simp
  | succ n => simp [entriesNesting_le]

end PolicyPack.Json
