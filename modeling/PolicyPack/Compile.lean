import PolicyPack.Artifact
import PolicyPack.BuildManifest
import PolicyPack.Evaluation.PreparedQuery
import PolicyPack.Ignore
import PolicyPack.Sources.Load

/-!
# Compiling

Policies are compiled from one module, from a source set into an artifact, or from an artifact.
Every way adds the modules to a program, then the data, and then evaluates the query once without an
input, so that whatever fails without one is found early.
-/

namespace PolicyPack

/-- Adds a module to a program under a name. -/
def addModule (p : Policy.Program) (name source : String) : Except Failure Policy.Program :=
  match Policy.parseModule name source with
  | .ok m => .ok (p.addModule m)
  | .error cause => .error (.compile (.engine (.diagnostic name cause)))

/-- Adds modules to a program in their order. -/
def addModules (p : Policy.Program) (modules : List (String × String)) :
    Except Failure Policy.Program :=
  modules.foldlM (fun p m => addModule p m.1 m.2) p

/-- Adds data to a program, by way of its text. -/
def addData (p : Policy.Program) (data : Dictionary Json.Value) : Except Failure Policy.Program :=
  if data.isEmpty then .ok p
  else
    match Policy.Value.ofText (Json.Value.object data).render with
    | .error f => .error (.compile (.data f))
    | .ok (.object entries) => .ok { p with data := .object entries }
    | .ok _ => .error (.compile .dataNotObject)

/-- Reads a query and evaluates it once without an input, after a look at whether the modules go
together and all bodies are safe. -/
def bindQuery (p : Policy.Program) (text : String) : Except Failure Policy.Query :=
  if Text.isBlank text then .error (.compile .emptyQuery)
  else
    let checked : Except Policy.Fault Policy.Query := do
      p.check
      let q ← Policy.Query.ofText text
      q.check p
      let _ ← q.answers p none
      return q
    match checked with
    | .ok q => .ok q
    | .error f => .error (.compile (.engine f))

/-- Prepares a query against modules and data. -/
def prepare (query : String) (modules : List (String × String)) (data : Dictionary Json.Value) :
    Except Failure PreparedQuery := do
  let p ← addData (← addModules {} modules) data
  return ⟨query, ← bindQuery p query, p⟩

/-- Compiles a source set into an artifact with a query. -/
def compileSources (query : String) (s : SourceSet) : Except Failure Artifact := do
  let _ ← prepare query s.modules s.data
  return Artifact.encode query s

/-- Compiles one named module together with a query. -/
def compileModule (query name source : String) : Except Failure PreparedQuery :=
  prepare query [(name, source)] []

/-- Prepares the query of an artifact. -/
def prepareArtifact (a : Artifact) : Except Failure PreparedQuery := do
  let c ← a.decode
  prepare c.query (c.modules.map fun m => (m.path, m.source)) c.data

/-- Loads sources, leaving out what the ignore patterns match in data trees, and compiles them. -/
def build (t : FileTree) (query : String) (data bundles : List Path) (ignore : List String) :
    Except Failure Artifact := do
  let filter ← IgnoreSet.ofTexts ignore
  let s ← load t data bundles filter.filter
  compileSources query s

/-- A path as seen from a directory. -/
def Path.from (base p : Path) : Path := if p.isAbsolute then p else base.join p

/-- Builds what a manifest describes; its relative paths start from a directory. -/
def buildManifest (t : FileTree) (m : BuildManifest) (base : Path) : Except Failure Artifact := do
  m.validate
  let resolve (paths : List String) : List Path := paths.map fun p => Path.from base ⟨p⟩
  build t m.query (resolve m.data) (resolve m.bundles) m.ignore

end PolicyPack
