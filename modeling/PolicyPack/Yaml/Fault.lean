import PolicyPack.Shape

/-!
# Faults in YAML documents

A document is malformed, or a value in it does not have the expected shape. A fault of shape tells
the place of the value by the keys and positions that lead to it.
-/

namespace PolicyPack.Yaml

/-- One step on the way to a value. -/
inductive PlaceStep where
  /-- To the value under a key. -/
  | key (s : String)
  /-- To the value under a key that has no text of its own. -/
  | unnamedKey
  /-- To an item of a sequence. -/
  | item (index : Nat)
deriving DecidableEq, Repr

/-- A fault in a document. -/
inductive Fault where
  /-- The text is not a document, or holds what cannot be read: collections nested too deeply, too
  many aliases, or a number that is too wide. -/
  | malformed
  /-- A value without the expected shape; the steps lead to it from the root. -/
  | shape (place : List PlaceStep) (fault : ShapeFault)
deriving DecidableEq, Repr

/-- The text of a place: keys are joined by points, positions stand in brackets, and the root is a
point where a position follows it. -/
def placeText (place : List PlaceStep) : String :=
  place.foldl (fun s step =>
    let above := if s.isEmpty then "" else s ++ "."
    match step with
    | .key k => above ++ k
    | .unnamedKey => above ++ "?"
    | .item i => (if s.isEmpty then "." else s) ++ s!"[{i}]") ""

/-- The wording of the fault. -/
def Fault.message : Fault → String
  | .malformed => "<yaml>"
  | .shape [] f => f.message
  | .shape place f => placeText place ++ ": " ++ f.message

end PolicyPack.Yaml
