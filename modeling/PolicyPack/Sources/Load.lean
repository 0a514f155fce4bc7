import PolicyPack.BytePath
import PolicyPack.Files.Walk
import PolicyPack.Policy.Grammar.Module
import PolicyPack.Sources.SourceSet
import PolicyPack.Yaml.Typed

/-!
# Loading sources

Data trees and bundles are walked, and the files in them become modules and documents. A file is
known below its root by the names that lead to it, read from their bytes; a document stands in the
data tree under the names of its directories.
-/

namespace PolicyPack

/-- The format of a data file. -/
inductive DataFormat where
  /-- JSON text. -/
  | json
  /-- A YAML document. -/
  | yaml
deriving DecidableEq, Repr

/-- What a file holds. -/
inductive FileKind where
  /-- The text of a module. -/
  | policy
  /-- A data document. -/
  | data (format : DataFormat)
deriving DecidableEq, Repr

/-- What a file of a data tree holds, by the extension of its path. -/
def FileKind.ofExtension? (p : Path) : Option FileKind :=
  match p.extension? with
  | some "rego" => some .policy
  | some "json" => some (.data .json)
  | some "yaml" => some (.data .yaml)
  | some "yml" => some (.data .yaml)
  | _ => none

/-- What a file of a bundle holds, by its name. -/
def FileKind.ofBundleName? (name : String) : Option FileKind :=
  if name = ".manifest" ∨ name = ".signatures.json" then none
  else if name.endsWith ".rego" then some .policy
  else if name = "data.json" then some (.data .json)
  else if name = "data.yaml" ∨ name = "data.yml" then some (.data .yaml)
  else none

/-- The components that a module is known by: those below the root, or its own name if it is the
root. -/
def keyComponents (root p : Path) : List Path.Component :=
  match Path.componentsBelow? root p with
  | some (c :: cs) => c :: cs
  | _ => ((p.fileName?.map Path.mk).getD p).components

/-- The components that a document stands under: the directories below the root. -/
def directoryComponents (root p : Path) : List Path.Component :=
  ((Path.componentsBelow? root p).getD p.components).dropLast

/-- The key of the module at a path of bytes. -/
def keyOfBytes (root p : Path) : String :=
  "/".intercalate ((keyComponents root p).map Path.Component.reading)

/-- The keys of the document at a path of bytes. -/
def directoryKeysOfBytes (root p : Path) : List String :=
  (directoryComponents root p).map Path.Component.reading

/-- The key of the module at a path, which is known by its bytes. -/
def moduleKey (root p : Path) : String := keyOfBytes root.encoded p.encoded

/-- The keys under which the document at a path stands. -/
def directoryKeys (root p : Path) : List String := directoryKeysOfBytes root.encoded p.encoded

/-- The text of a file, which is opened by its path. -/
def sourceText (p : Path) (content : ByteArray) : Except Failure String :=
  match FileTree.checkLength p >>= fun _ => (Node.file content).text with
  | .ok s => .ok s
  | .error f => .error (.load (.unreadable p f))

/-- Reads a module, which must be well-formed, under the name of its path. -/
def readModule (p : Path) (source : String) : Except Failure Policy.Module :=
  match Policy.parseModule p.text source with
  | .ok m => .ok m
  | .error cause => .error (.load (.module (.diagnostic p.text cause)))

/-- Reads a data document. -/
def readDocument (p : Path) (format : DataFormat) (text : String) : Except Failure Json.Value :=
  match format with
  | .json =>
    match Json.Value.ofText text with
    | .ok v => .ok v
    | .error f => .error (.load (.jsonData p f))
  | .yaml =>
    match Yaml.dataOfText text with
    | .ok v => .ok v
    | .error f => .error (.load (.yamlData p f))

/-! ### Walks -/

/-- What a walk opens, in its order. -/
def openingsAt (t : FileTree) (excluded : EntryFilter) (root : Path) :
    Except Failure (List (Path × Opening)) :=
  match t.walk excluded root with
  | .ok entries => .ok (entries.filterMap WalkEntry.opening?)
  | .error f => .error (.load (.unreachable root f))

/-- Opens a directory. -/
def openDirectory (p : Path) : Except Failure Unit :=
  match FileTree.checkLength p with
  | .ok _ => .ok ()
  | .error f => .error (.load (.unreachable p f))

/-- Opens a directory, or takes in a file. -/
def visit (takeIn : SourceSet → Path × ByteArray → Except Failure SourceSet) (s : SourceSet) :
    Path × Opening → Except Failure SourceSet
  | (p, .directory) => do
    openDirectory p
    return s
  | (p, .file content) => takeIn s (p, content)

/-! ### Data trees -/

/-- Takes in a file of a data tree. -/
def addTreeFile (root : Path) (s : SourceSet) (f : Path × ByteArray) :
    Except Failure SourceSet := do
  match FileKind.ofExtension? f.1 with
  | none => return s
  | some .policy =>
    let source ← sourceText f.1 f.2
    let _ ← readModule f.1 source
    s.addModule (moduleKey root f.1) source
  | some (.data format) =>
    let doc ← readDocument f.1 format (← sourceText f.1 f.2)
    s.withData (directoryKeys root f.1) doc f.1

/-- Takes in the files of a data tree that a filter leaves. -/
def addTree (t : FileTree) (excluded : EntryFilter) (s : SourceSet) (root : Path) :
    Except Failure SourceSet := do
  (← openingsAt t excluded root).foldlM (visit (addTreeFile root)) s

/-! ### Bundles -/

/-- The manifest of the bundle in a directory; one that is not there says nothing. -/
def readManifest (t : FileTree) (dir : Path) : Except Failure BundleManifest := do
  if !t.isDirectory dir then throw (.load (.bundleNotDirectory dir))
  let p := dir.join ⟨".manifest"⟩
  if !t.hasPath p then return {}
  match t.readText p with
  | .error f => throw (.load (.unreadable p f))
  | .ok text =>
    match BundleManifest.ofText text with
    | .ok m => return m
    | .error f => throw (.load (.manifest p f))

/-- Whether the bundle owns a package. -/
def BundleManifest.ownsPackage (m : BundleManifest) (package : String) : Bool :=
  m.owns ("/".intercalate (package.splitOn "."))

/-- The places at which a document under keys puts data: its top-level keys, or the keys alone. -/
def documentPlaces (keys : List String) (doc : Json.Value) : List String :=
  let base := "/".intercalate keys
  match doc.entries? with
  | some entries => entries.map fun e => if base.isEmpty then e.1 else base ++ "/" ++ e.1
  | none => [base]

/-- Refuses a document that puts data where the bundle does not own it. -/
def checkPlaces (m : BundleManifest) (keys : List String) (doc : Json.Value) (origin : Path) :
    Except Failure Unit :=
  match (documentPlaces keys doc).find? fun place => !m.owns place with
  | some place => .error (.load (.dataOutsideRoots origin place))
  | none => .ok ()

/-- Takes in a file of a bundle. -/
def addBundleFile (m : BundleManifest) (dir : Path) (s : SourceSet) (f : Path × ByteArray) :
    Except Failure SourceSet := do
  match f.1.fileName?.bind FileKind.ofBundleName? with
  | none => return s
  | some .policy =>
    let source ← sourceText f.1 f.2
    let package := (← readModule f.1 source).packageName
    if !m.ownsPackage package then throw (.load (.packageOutsideRoots f.1 package))
    s.addModule (moduleKey dir f.1) source
  | some (.data format) =>
    let keys := directoryKeys dir f.1
    let doc ← readDocument f.1 format (← sourceText f.1 f.2)
    checkPlaces m keys doc f.1
    s.withData keys doc f.1

/-- Takes in a bundle. -/
def addBundle (t : FileTree) (s : SourceSet) (dir : Path) : Except Failure SourceSet := do
  let m ← readManifest t dir
  let s ← (← openingsAt t EntryFilter.none dir).foldlM (visit (addBundleFile m dir)) s
  return s.addBundle m

/-- Loads data trees, of which a filter leaves out entries, and then bundles. -/
def load (t : FileTree) (data bundles : List Path) (excluded : EntryFilter) :
    Except Failure SourceSet := do
  let s ← data.foldlM (addTree t excluded) {}
  bundles.foldlM (addBundle t) s

end PolicyPack
