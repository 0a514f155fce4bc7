import PolicyPack.Files.Tree
import PolicyPack.Glob.Reader
import PolicyPack.Json.Fault
import PolicyPack.Policy.Token
import PolicyPack.Yaml.Fault

/-!
# Failures

Every operation of this library fails in one of seven ways, each with a code that callers can rely
on. Most failures have a cause, from which their wording follows; a cause can also be stated as a
text.
-/

namespace PolicyPack

/-- The number under which a prepared query is registered. -/
structure Handle where
  number : Nat
deriving DecidableEq, Repr

/-- Why sources could not be read or put together. -/
inductive LoadCause where
  /-- A malformed ignore pattern. -/
  | pattern (text : String) (fault : Glob.Fault)
  /-- An ignore pattern that nests too deep, by its number. -/
  | deepPattern (number : Nat)
  /-- A path that a walk cannot reach. -/
  | unreachable (path : Path) (fault : FileFault)
  /-- A file that cannot be read. -/
  | unreadable (path : Path) (fault : FileFault)
  /-- A module that cannot be used. -/
  | module (fault : Policy.Fault)
  /-- Two modules with one key. -/
  | duplicateModule (key : String)
  /-- A data file with a fault in its text. -/
  | jsonData (path : Path) (fault : Json.Fault)
  /-- A data file with a fault in its document. -/
  | yamlData (path : Path) (fault : Yaml.Fault)
  /-- Data at the root that is no object. -/
  | rootNotObject (origin : Path)
  /-- Different values at one place of the data. -/
  | conflict (origin : Path) (keys : List String)
  /-- A bundle that is no directory. -/
  | bundleNotDirectory (path : Path)
  /-- A bundle manifest with a fault. -/
  | manifest (path : Path) (fault : Json.Fault)
  /-- A module whose package the bundle does not own. -/
  | packageOutsideRoots (path : Path) (package : String)
  /-- Data at a place that the bundle does not own. -/
  | dataOutsideRoots (path : Path) (place : String)
  /-- A cause in words. -/
  | stated (text : String)
deriving DecidableEq, Repr

/-- The wording of the cause. -/
def LoadCause.message : LoadCause → String
  | .pattern p f =>
    "invalid ignore pattern " ++ Text.quoted p ++ ": error parsing glob '" ++ p ++ "': "
      ++ f.message
  | .deepPattern n => "invalid ignore patterns: error parsing pattern " ++ toString n
  | .unreachable p f => "IO error for operation on " ++ p.text ++ ": " ++ f.message
  | .unreadable p f => p.text ++ ": " ++ f.message
  | .module f => f.message
  | .duplicateModule k => "duplicate module: " ++ k
  | .jsonData p f => p.text ++ ": " ++ f.message
  | .yamlData p f => p.text ++ ": " ++ f.message
  | .rootNotObject p => p.text ++ ": data document at the root must be an object"
  | .conflict p keys =>
    p.text ++ ": merge error: conflicting value at data." ++ ".".intercalate keys
  | .bundleNotDirectory p => p.text ++ ": bundle path is not a directory"
  | .manifest p f => p.text ++ ": invalid manifest: " ++ f.message
  | .packageOutsideRoots p name => p.text ++ ": package " ++ name ++ " is outside the bundle roots"
  | .dataOutsideRoots p place => p.text ++ ": data path " ++ place ++ " is outside the bundle roots"
  | .stated t => t

/-- Why a policy or a query could not be compiled. -/
inductive CompileCause where
  /-- A query of blank space only. -/
  | emptyQuery
  /-- A fault in a module or in the query. -/
  | engine (fault : Policy.Fault)
  /-- Data that the engine cannot read. -/
  | data (fault : Json.Fault)
  /-- Data that the engine reads as something other than an object. -/
  | dataNotObject
  /-- Bytes that are no artifact. -/
  | artifact (fault : Json.Fault)
  /-- A cause in words. -/
  | stated (text : String)
deriving DecidableEq, Repr

/-- The wording of the cause. -/
def CompileCause.message : CompileCause → String
  | .emptyQuery => "query must not be empty"
  | .engine f => f.message
  | .data f => f.message
  | .dataNotObject => "data must be object"
  | .artifact f => "invalid artifact: " ++ f.message
  | .stated t => t

/-- Why an input could not be read. -/
inductive InputCause where
  /-- A fault in the text of the input. -/
  | text (fault : Json.Fault)
  /-- A cause in words. -/
  | stated (text : String)
deriving DecidableEq, Repr

/-- The wording of the cause. -/
def InputCause.message : InputCause → String
  | .text f => f.message
  | .stated t => t

/-- Why a query could not be evaluated. -/
inductive EvaluationCause where
  /-- A fault met by the engine. -/
  | engine (fault : Policy.Fault)
  /-- A number past the range of floating-point numbers in a result. -/
  | hugeNumber
  /-- No result where a value is asked for. -/
  | undefined
  /-- A result of another kind than asked for. -/
  | shape (fault : ShapeFault)
  /-- A cause in words. -/
  | stated (text : String)
deriving DecidableEq, Repr

/-- The wording of the cause. -/
def EvaluationCause.message : EvaluationCause → String
  | .engine f => f.message
  | .hugeNumber => "could not serialize big number"
  | .undefined => "undefined"
  | .shape f => f.message
  | .stated t => t

/-- Why a build manifest cannot be used. -/
inductive ConfigCause where
  /-- A file that cannot be read. -/
  | unreadable (path : Path) (fault : FileFault)
  | document (fault : Yaml.Fault)
  /-- A query of blank space only. -/
  | emptyQuery
  /-- Neither data nor bundles. -/
  | noSources
  /-- An empty ignore pattern. -/
  | emptyPattern
  /-- A cause in words. -/
  | stated (text : String)
deriving DecidableEq, Repr

/-- The wording of the cause. -/
def ConfigCause.message : ConfigCause → String
  | .unreadable p f => "read " ++ p.text ++ " failed: " ++ f.message
  | .document f => "invalid yaml: " ++ f.message
  | .emptyQuery => "query must not be empty"
  | .noSources => "at least one of data or bundles must be given"
  | .emptyPattern => "ignore patterns must not be empty"
  | .stated t => t

/-- A failure of an operation. -/
inductive Failure where
  /-- Sources could not be read or put together. -/
  | load (cause : LoadCause)
  /-- A policy or a query could not be compiled. -/
  | compile (cause : CompileCause)
  /-- No query is registered under the handle. -/
  | notFound (handle : Handle)
  /-- An input could not be read. -/
  | parse (cause : InputCause)
  /-- A query could not be evaluated. -/
  | evaluation (cause : EvaluationCause)
  /-- A build manifest cannot be used. -/
  | config (cause : ConfigCause)
  /-- A version that is not supported. -/
  | version (number : Nat)
deriving DecidableEq, Repr

/-- The code of a failure. -/
inductive FailureCode where
  /-- Sources could not be read or put together. -/
  | load
  /-- A policy or a query could not be compiled. -/
  | compile
  /-- A handle is unknown or has been disposed of. -/
  | notFound
  /-- An input could not be read. -/
  | parse
  /-- A query could not be evaluated. -/
  | evaluation
  /-- A build manifest cannot be used. -/
  | config
  /-- A version is not supported. -/
  | version
deriving DecidableEq, Repr

/-- The stable text of a code. -/
def FailureCode.text : FailureCode → String
  | .load => "LOAD_ERROR"
  | .compile => "COMPILE_ERROR"
  | .notFound => "NOT_FOUND"
  | .parse => "PARSE_FAILURE"
  | .evaluation => "EVALUATION_FAILURE"
  | .config => "INVALID_CONFIG"
  | .version => "UNSUPPORTED_VERSION"

/-- The name of a code. -/
def FailureCode.name : FailureCode → String
  | .load => "LoadError"
  | .compile => "CompileError"
  | .notFound => "NotFound"
  | .parse => "ParseFailure"
  | .evaluation => "EvaluationFailure"
  | .config => "InvalidConfig"
  | .version => "UnsupportedVersion"

namespace Failure

/-- The code of a failure. -/
def code : Failure → FailureCode
  | .load _ => .load
  | .compile _ => .compile
  | .notFound _ => .notFound
  | .parse _ => .parse
  | .evaluation _ => .evaluation
  | .config _ => .config
  | .version _ => .version

/-- The wording of a failure. -/
def message : Failure → String
  | .load c => c.message
  | .compile c => c.message
  | .notFound _ => "could not find rego query"
  | .parse c => c.message
  | .evaluation c => c.message
  | .config c => "invalid config: " ++ c.message
  | .version n => s!"unsupported version: {n}"

/-- The description of a failure by its kind and content. -/
def describe : Failure → String
  | .load c => "Load(" ++ Text.quoted c.message ++ ")"
  | .compile c => "Compile(" ++ Text.quoted c.message ++ ")"
  | .notFound h => s!"NotFound(Handle({h.number}))"
  | .parse c => "ParseFailure(" ++ Text.quoted c.message ++ ")"
  | .evaluation c => "Evaluation(" ++ Text.quoted c.message ++ ")"
  | .config c => "InvalidConfig(" ++ Text.quoted c.message ++ ")"
  | .version n => s!"UnsupportedVersion({n})"

end Failure

end PolicyPack
