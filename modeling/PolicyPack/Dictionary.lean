/-!
# Dictionaries

A dictionary is a list of entries whose keys increase by the order of text, which compares code
point by code point. `find?` is the view: the lemmas say what each operation does to it.
-/

namespace PolicyPack

universe u

/-- Entries with a text as their key. -/
abbrev Dictionary (α : Type u) := List (String × α)

namespace Dictionary

variable {α : Type u}

/-- The keys increase, so no key occurs twice. -/
def Sorted (d : Dictionary α) : Prop := d.Pairwise fun a b => a.1 < b.1

/-- The value at a key. -/
def find? (k : String) : Dictionary α → Option α
  | [] => none
  | e :: r => if e.1 = k then some e.2 else find? k r

/-- Puts a value at a key, in place of the one it had. -/
def insert (k : String) (x : α) : Dictionary α → Dictionary α
  | [] => [(k, x)]
  | e :: r =>
    if k < e.1 then (k, x) :: e :: r
    else if k = e.1 then (k, x) :: r
    else e :: insert k x r

/-- The dictionary of a list of entries, a later one winning over an earlier one of the same key. -/
def ofList (l : List (String × α)) : Dictionary α :=
  l.foldl (fun d e => insert e.1 e.2 d) []

@[simp] theorem find?_nil (k : String) : find? k ([] : Dictionary α) = none := rfl

theorem find?_cons (k : String) (e : String × α) (r : Dictionary α) :
    find? k (e :: r) = if e.1 = k then some e.2 else find? k r := rfl

@[simp] theorem find?_insert_self (k : String) (x : α) (d : Dictionary α) :
    find? k (insert k x d) = some x := by
  induction d with
  | nil => simp [insert, find?]
  | cons e r ih =>
    simp only [insert]
    split
    · simp [find?]
    · split
      · simp [find?]
      · next h => simpa [find?, Ne.symm h] using ih

theorem find?_insert_of_ne {k l : String} (h : k ≠ l) (x : α) (d : Dictionary α) :
    find? l (insert k x d) = find? l d := by
  induction d with
  | nil => simp [insert, find?, h]
  | cons e r ih =>
    simp only [insert]
    split
    · simp [find?, h]
    · split
      · next hk => simp [find?, ← hk, h]
      · simp [find?, ih]

end Dictionary

end PolicyPack
