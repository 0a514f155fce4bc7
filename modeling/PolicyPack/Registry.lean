import PolicyPack.Compile

/-!
# Registries

A registry keeps prepared queries under handles. Handles are issued from one upwards and never
again, so a handle that has been disposed of stays unknown for good. The number of a handle is a
word of 64 bits, which is more handles than any registry ever issues.
-/

namespace PolicyPack

/-- How many words of 64 bits there are. -/
def Handle.words : Nat := 0x10000000000000000

/-- A registry of prepared queries. -/
structure Registry where
  /-- The number of the last handle issued. -/
  last : Nat := 0
  /-- The registered queries by the numbers of their handles. -/
  entries : List (Nat × PreparedQuery) := []

namespace Registry

/-- How many queries are registered. -/
def size (r : Registry) : Nat := r.entries.length

/-- Whether no query is registered. -/
def isEmpty (r : Registry) : Bool := r.size == 0

/-- The entries under other handles. -/
def without (r : Registry) (h : Handle) : List (Nat × PreparedQuery) :=
  r.entries.filter fun e => e.1 != h.number

/-- Registers a prepared query under the number after the last, in place of what is there. Past the
greatest word the numbers begin anew. -/
def insert (r : Registry) (q : PreparedQuery) : Registry × Handle :=
  let h : Handle := ⟨(r.last + 1) % Handle.words⟩
  (⟨h.number, (h.number, q) :: r.without h⟩, h)

/-- Registers what has been prepared, if it has been. -/
def insertResult (r : Registry) (q : Except Failure PreparedQuery) :
    Registry × Except Failure Handle :=
  match q with
  | .ok q =>
    let (r, h) := r.insert q
    (r, .ok h)
  | .error f => (r, .error f)

/-- Compiles a module with a query and registers the result. -/
def create (r : Registry) (query name source : String) : Registry × Except Failure Handle :=
  r.insertResult (compileModule query name source)

/-- Prepares an artifact and registers the result. -/
def createFromArtifact (r : Registry) (a : Artifact) : Registry × Except Failure Handle :=
  r.insertResult (prepareArtifact a)

/-- The query under a handle. -/
def lookup (r : Registry) (h : Handle) : Except Failure PreparedQuery :=
  match r.entries.lookup h.number with
  | some q => .ok q
  | none => .error (.notFound h)

/-- Removes the query under a handle, and tells whether there was one. -/
def dispose (r : Registry) (h : Handle) : Registry × Bool :=
  ({ r with entries := r.without h }, (r.entries.lookup h.number).isSome)

/-- The decision of the query under a handle. -/
def decide (r : Registry) (h : Handle) (input : String) : Except Failure Bool := do
  (← r.lookup h).decide input

/-- The results of the query under a handle. -/
def evaluate (r : Registry) (h : Handle) (input : String) : Except Failure (List ResultEntry) := do
  (← r.lookup h).evaluate input

/-- The text of the results of the query under a handle. -/
def evaluateToText (r : Registry) (h : Handle) (input : String) : Except Failure String := do
  (← r.lookup h).evaluateToText input

/-- The description of a registry. -/
def describe (r : Registry) : String := s!"Registry \x7b len: {r.size} \x7d"

end Registry

/-- The text of a handle. -/
def Handle.text (h : Handle) : String := toString h.number

end PolicyPack
