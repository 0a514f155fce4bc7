import PolicyPack.Boundary.Argument

/-!
# Calls from C

Each call decodes its arguments, runs one operation, and answers with a payload or the text of an
error, never both. A call that fails leaves the registry as it was.
-/

namespace PolicyPack.Boundary

/-- The answer of a build. -/
structure BuildAnswer where
  /-- The artifact, or none for null. -/
  artifact : Option Buffer := none
  /-- The length of the artifact. -/
  length : Nat := 0
  /-- The text of the error, or none for null. -/
  error : Option Buffer := none

/-- The answer of a registration. -/
structure HandleAnswer where
  /-- The number of the handle, or zero. -/
  handle : Nat := 0
  /-- The text of the error, or none for null. -/
  error : Option Buffer := none

/-- The answer of a decision. -/
structure BoolAnswer where
  /-- The decision. -/
  value : Bool := false
  /-- The text of the error, or none for null. -/
  error : Option Buffer := none

/-- The answer of an evaluation. -/
structure TextAnswer where
  /-- The text, or none for null. -/
  value : Option Buffer := none
  /-- The text of the error, or none for null. -/
  error : Option Buffer := none

/-- The buffer of an error. -/
def errorText (f : CallFault) : Option Buffer := some (Buffer.ofText f.message)

/-- The answer for an artifact or a fault. -/
def BuildAnswer.of : Except CallFault Artifact → BuildAnswer
  | .ok a => { artifact := some (Buffer.ofBytes a.bytes), length := a.size }
  | .error f => { error := errorText f }

/-- The answer for a handle or a fault. -/
def HandleAnswer.of : Except CallFault Handle → HandleAnswer
  | .ok h => { handle := h.number }
  | .error f => { error := errorText f }

/-- The answer for a decision or a fault. -/
def BoolAnswer.of : Except CallFault Bool → BoolAnswer
  | .ok b => { value := b }
  | .error f => { error := errorText f }

/-- The answer for a text or a fault. -/
def TextAnswer.of : Except CallFault String → TextAnswer
  | .ok s => { value := some (Buffer.ofText s) }
  | .error f => { error := errorText f }

/-! ### Builds -/

/-- Builds from paths. -/
def callBuild (t : FileTree) (query : TextArgument) (data bundles ignore : ListArgument) :
    BuildAnswer :=
  BuildAnswer.of do
    let query ← decodeText "query" query
    let data ← decodeList "data" data
    let bundles ← decodeList "bundles" bundles
    let ignore ← decodeList "ignore" ignore
    outcome (build t query (data.map Path.mk) (bundles.map Path.mk) ignore)

/-- Builds from a manifest file, whose relative paths start from its directory. -/
def callBuildManifest (t : FileTree) (path : TextArgument) : BuildAnswer :=
  BuildAnswer.of do
    let p : Path := ⟨← decodeText "path" path⟩
    let m ← outcome (BuildManifest.ofFile t p)
    outcome (buildManifest t m (p.parent?.getD ⟨"."⟩))

/-! ### Registrations -/

/-- Runs a registration on a registry, if there is one and its arguments can be decoded. -/
def register {α : Type} (registry : Option Registry) (decode : Except CallFault α)
    (operation : Registry → α → Registry × Except Failure Handle) :
    Option Registry × HandleAnswer :=
  match requireRegistry registry with
  | .error f => (registry, HandleAnswer.of (.error f))
  | .ok r =>
    match decode with
    | .error f => (registry, HandleAnswer.of (.error f))
    | .ok x =>
      let (r, h) := operation r x
      (some r, HandleAnswer.of (outcome h))

/-- Compiles a module with a query and registers the result. -/
def callCreate (registry : Option Registry) (query name source : TextArgument) :
    Option Registry × HandleAnswer :=
  let decode : Except CallFault (String × String × String) := do
    return (← decodeText "query" query, ← decodeText "module_name" name,
      ← decodeText "module_source" source)
  register registry decode fun r a => r.create a.1 a.2.1 a.2.2

/-- Prepares an artifact and registers the result. -/
def callCreateFromArtifact (registry : Option Registry) (bytes : Option ByteArray) :
    Option Registry × HandleAnswer :=
  let decode : Except CallFault ByteArray := match bytes with
    | some bytes => .ok bytes
    | none => .error .nullArtifact
  register registry decode fun r bytes => r.createFromArtifact ⟨bytes⟩

/-- Disposes of a handle. -/
def callDispose (registry : Option Registry) (h : Handle) : Option Registry :=
  registry.map fun r => (r.dispose h).1

/-! ### Evaluations -/

/-- Evaluates the query under a handle; the handle is looked up before the input is decoded. -/
def evaluateWith {α : Type} (registry : Option Registry) (h : Handle) (input : TextArgument)
    (form : PreparedQuery → String → Except Failure α) : Except CallFault α := do
  let r ← requireRegistry registry
  let q ← outcome (r.lookup h)
  let input ← decodeText "input_json" input
  outcome (form q input)

/-- Decides for an input. -/
def callDecide (registry : Option Registry) (h : Handle) (input : TextArgument) : BoolAnswer :=
  BoolAnswer.of (evaluateWith registry h input PreparedQuery.decide)

/-- Evaluates for an input. -/
def callEvaluate (registry : Option Registry) (h : Handle) (input : TextArgument) : TextAnswer :=
  TextAnswer.of (evaluateWith registry h input PreparedQuery.evaluateToText)

/-! ### The library -/

/-- The version of the library. -/
def versionText : String := "0.1.0"

end PolicyPack.Boundary
