import PolicyPack.Sources.SourceSet

/-!
# Artifacts

An artifact is the bytes of a compiled policy: a record with the data, the format, the modules in
the order of their paths, and the query. Equal sources and queries have equal artifacts.
-/

namespace PolicyPack

/-- The bytes of a compiled policy. -/
structure Artifact where
  bytes : ByteArray

namespace Artifact

/-- The format that is written and read. -/
def format : Nat := 1

/-- How many bytes the artifact has. -/
def size (a : Artifact) : Nat := a.bytes.size

/-- Whether the artifact has no bytes. -/
def isEmpty (a : Artifact) : Bool := a.bytes.isEmpty

/-! ### Content -/

/-- A module in an artifact. -/
structure Module where
  /-- The key of the module. -/
  path : String
  /-- The text of the module. -/
  source : String
deriving DecidableEq, Repr

/-- What an artifact holds. -/
structure Content where
  /-- The entries of the data tree. -/
  data : Dictionary Json.Value
  /-- The format of the artifact. -/
  format : Nat
  modules : List Module
  query : String

/-! ### Writing -/

/-- The text of a module. -/
def Module.render (m : Module) : String :=
  Json.objectOf [("path", Json.quote m.path), ("source", Json.quote m.source)]

/-- The text of what an artifact holds. -/
def Content.render (c : Content) : String :=
  Json.objectOf [
    ("data", (Json.Value.object c.data).render),
    ("format", toString c.format),
    ("modules", Json.arrayOf (c.modules.map Module.render)),
    ("query", Json.quote c.query)]

/-- What the artifact of a query and its sources holds. -/
def contentOf (query : String) (s : SourceSet) : Content where
  data := s.data
  format := format
  modules := s.modules.map fun e => ⟨e.1, e.2⟩
  query := query

/-- The artifact of a query and its sources. -/
def encode (query : String) (s : SourceSet) : Artifact := ⟨(contentOf query s).render.toUTF8⟩

/-! ### Reading -/

/-- The fields of a module that have been read. -/
structure ModuleDraft where
  /-- The key. -/
  path : Option String := none
  source : Option String := none

/-- How a module is read. -/
def Module.record : Json.Record ModuleDraft Module where
  name := "ArtifactModule"
  blank := {}
  fields := [
    { name := "path"
      present := fun d => d.path.isSome
      mayLack := false
      read := fun _ d s => do
        let (x, s) ← Json.text s
        return ({ d with path := some x }, s) },
    { name := "source"
      present := fun d => d.source.isSome
      mayLack := false
      read := fun _ d s => do
        let (x, s) ← Json.text s
        return ({ d with source := some x }, s) }]
  finish d := do return ⟨← d.path, ← d.source⟩

/-- The fields of what an artifact holds that have been read. -/
structure Draft where
  data : Option (Dictionary Json.Value) := none
  format : Option Nat := none
  modules : Option (List Module) := none
  query : Option String := none

/-- How what an artifact holds is read. -/
def Content.record : Json.Record Draft Content where
  name := "ArtifactDoc"
  blank := {}
  fields := [
    { name := "data"
      present := fun d => d.data.isSome
      mayLack := false
      read := fun levels d s => do
        let (x, s) ← Json.mapOfValues levels s
        return ({ d with data := some x }, s) },
    { name := "format"
      present := fun d => d.format.isSome
      mayLack := false
      read := fun _ d s => do
        let (x, s) ← Json.word32 s
        return ({ d with format := some x }, s) },
    { name := "modules"
      present := fun d => d.modules.isSome
      mayLack := false
      read := fun levels d s => do
        let (x, s) ← Json.listOf Module.record.read levels s
        return ({ d with modules := some x }, s) },
    { name := "query"
      present := fun d => d.query.isSome
      mayLack := false
      read := fun _ d s => do
        let (x, s) ← Json.text s
        return ({ d with query := some x }, s) }]
  finish d := do return ⟨← d.data, ← d.format, ← d.modules, ← d.query⟩

/-- Reads bytes as what an artifact holds. -/
def Content.ofBytes (bytes : ByteArray) : Except Json.Fault Content :=
  Json.whole (Content.record.read Json.nestingLimit (Json.symbolsOfBytes bytes))

/-- What the artifact holds, if it is of the supported format. -/
def decode (a : Artifact) : Except Failure Content :=
  match Content.ofBytes a.bytes with
  | .error f => .error (.compile (.artifact f))
  | .ok c => if c.format = format then .ok c else .error (.version c.format)

end Artifact

end PolicyPack
