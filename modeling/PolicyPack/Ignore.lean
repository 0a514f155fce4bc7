import PolicyPack.Failure
import PolicyPack.Files.Walk
import PolicyPack.Glob.Nesting

/-!
# Ignore patterns

A set of patterns excludes the entries whose name matches one of them. Only the last component of a
path is looked at, so a path that does not end in a name is never excluded.
-/

namespace PolicyPack

/-- A set of ignore patterns. -/
structure IgnoreSet where
  /-- The patterns with their texts, in order. -/
  entries : List (String × Glob.Pattern) := []

namespace IgnoreSet

/-- The set without patterns. -/
def empty : IgnoreSet := {}

/-- Reads one pattern. -/
def readPattern (text : String) : Except Failure (String × Glob.Pattern) :=
  match Glob.Pattern.ofText text with
  | .ok p => .ok (text, p)
  | .error f => .error (.load (.pattern text f))

/-- Reads patterns; the first malformed one is reported, and then the first that nests too deep. -/
def ofTexts (texts : List String) : Except Failure IgnoreSet := do
  let entries ← texts.mapM readPattern
  match Glob.Pattern.tooDeep? (entries.map Prod.snd) with
  | some n => throw (.load (.deepPattern n))
  | none => return ⟨entries⟩

/-- The texts of the patterns. -/
def patterns (s : IgnoreSet) : List String := s.entries.map Prod.fst

/-- Whether there are no patterns. -/
def isEmpty (s : IgnoreSet) : Bool := s.entries.isEmpty

/-- Whether some pattern matches a name. -/
def matchesName (s : IgnoreSet) (name : String) : Bool := s.entries.any fun e => e.2.matches name

/-- Whether the entry at a path is excluded. -/
def excludes (s : IgnoreSet) (p : Path) : Bool := (p.fileName?.map s.matchesName).getD false

/-- The filter of a walk that leaves excluded entries out. -/
def filter (s : IgnoreSet) : EntryFilter := fun p _ _ => s.excludes p

end IgnoreSet

end PolicyPack
