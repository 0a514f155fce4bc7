import PolicyPack.Failure
import PolicyPack.Text.Blank
import PolicyPack.Yaml.Typed

/-!
# Build manifests

A build manifest names the query, the sources and the ignore patterns of one build. It is a YAML
mapping with fixed fields; its content is checked after it has been read.
-/

namespace PolicyPack

/-- The description of a build. -/
structure BuildManifest where
  /-- The version of the description. -/
  version : Nat
  query : String
  /-- The paths of the data trees. -/
  data : List String := []
  /-- The paths of the bundles. -/
  bundles : List String := []
  /-- The ignore patterns. -/
  ignore : List String := []
deriving DecidableEq, Repr

namespace BuildManifest

/-- The version that is supported. -/
def supportedVersion : Nat := 1

/-- Checks the content; of several faults the first in the order of the fields is reported. -/
def validate (m : BuildManifest) : Except Failure Unit :=
  if m.version ≠ supportedVersion then .error (.version m.version)
  else if Text.isBlank m.query then .error (.config .emptyQuery)
  else if m.data.isEmpty && m.bundles.isEmpty then .error (.config .noSources)
  else if m.ignore.any String.isEmpty then .error (.config .emptyPattern)
  else .ok ()

/-! ### Text -/

/-- The fields of a manifest that have been read. -/
structure Draft where
  version : Option Nat := none
  query : Option String := none
  /-- The data trees. -/
  data : Option (List String) := none
  bundles : Option (List String) := none
  /-- The ignore patterns. -/
  ignore : Option (List String) := none

/-- The names of the fields. -/
def fieldNames : List String := ["version", "query", "data", "bundles", "ignore"]

/-- Whether a field has been read. -/
def Draft.has (d : Draft) (field : String) : Bool :=
  match field with
  | "version" => d.version.isSome
  | "query" => d.query.isSome
  | "data" => d.data.isSome
  | "bundles" => d.bundles.isSome
  | "ignore" => d.ignore.isSome
  | _ => false

/-- Reads a field. -/
def Draft.readField (d : Draft) (field : String) (place : List Yaml.PlaceStep) (n : Yaml.Node) :
    Yaml.Reading Draft := do
  match field with
  | "version" => return { d with version := some (← Yaml.readWord32 place n) }
  | "query" => return { d with query := some (← Yaml.readText place "a string" n) }
  | "data" => return { d with data := some (← Yaml.readTexts place n) }
  | "bundles" => return { d with bundles := some (← Yaml.readTexts place n) }
  | "ignore" => return { d with ignore := some (← Yaml.readTexts place n) }
  | _ => throw (.shape [] (.unknown field fieldNames))

/-- Reads the entry of one field. -/
def readEntry (d : Draft) (entry : Yaml.Node × Yaml.Node) : Yaml.Reading Draft := do
  let field ← Yaml.readText [] "field identifier" entry.1
  if d.has field then throw (.shape [] (.duplicate field))
  d.readField field [Yaml.stepUnder field entry.1] entry.2

/-- The manifest of a draft, or its first missing field. -/
def Draft.finish (d : Draft) : Except Yaml.Fault BuildManifest :=
  match d.version, d.query with
  | none, _ => .error (.shape [] (.missing "version"))
  | _, none => .error (.shape [] (.missing "query"))
  | some version, some query =>
    .ok {
      version := version
      query := query
      data := d.data.getD []
      bundles := d.bundles.getD []
      ignore := d.ignore.getD [] }

/-- Reads a manifest; a document that is not written is one without fields. -/
def ofNode (n : Yaml.Node) : Yaml.Reading BuildManifest := do
  match ← n.resolve with
  | .mapping _ entries => (← entries.foldlM readEntry {}).finish
  | n =>
    if Yaml.isAbsent n then Draft.finish {}
    else throw (Yaml.misfit [] "struct BuildManifest" n)

/-- Reads the text of a manifest. -/
def ofDocument : String → Except Yaml.Fault BuildManifest := Yaml.readDocument ofNode

/-- Reads the text of a manifest and checks its content. -/
def ofText (text : String) : Except Failure BuildManifest := do
  match ofDocument text with
  | .ok m =>
    m.validate
    return m
  | .error f => throw (.config (.document f))

/-- Reads the manifest in a file and checks its content. -/
def ofFile (t : FileTree) (p : Path) : Except Failure BuildManifest :=
  match t.readText p with
  | .ok text => ofText text
  | .error f => .error (.config (.unreadable p f))

end BuildManifest

end PolicyPack
