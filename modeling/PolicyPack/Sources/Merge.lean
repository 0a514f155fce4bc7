import PolicyPack.Json.Value

/-!
# Merging data

A document is merged into data key by key, in the order of the keys. A key that is not there yet is
taken over; where both have an object the objects are merged; anything else is a conflict, and what
was merged before it stays.
-/

namespace PolicyPack

/-- The data after a merge, and the keys that lead to the first conflict, if there is one. -/
abbrev Merged (α : Type) := α × Option (List String)

mutual

/-- Merges a value into one that is there already. -/
def mergeValue (old : Json.Value) : Json.Value → Merged Json.Value
  | .object new =>
    match old with
    | .object entries =>
      let (entries, conflict?) := mergeEntries entries new
      (.object entries, conflict?)
    | old => (old, some [])
  | _ => (old, some [])

/-- Merges entries into data. -/
def mergeEntries (data : Dictionary Json.Value) :
    List (String × Json.Value) → Merged (Dictionary Json.Value)
  | [] => (data, none)
  | (k, new) :: rest =>
    match Dictionary.find? k data with
    | none => mergeEntries (Dictionary.insert k new data) rest
    | some old =>
      match mergeValue old new with
      | (v, none) => mergeEntries (Dictionary.insert k v data) rest
      | (v, some keys) => (Dictionary.insert k v data, some (k :: keys))

end

/-- The value under keys, one inside the other. -/
def nestUnder (keys : List String) (v : Json.Value) : Json.Value :=
  keys.foldr (fun k v => .object [(k, v)]) v

end PolicyPack
