import Mathlib.Logic.Function.Basic
import PolicyPack.Proofs.Boundary.Arguments
import PolicyPack.Proofs.Registry.Runs

/-!
# Runs of calls

A run is a list of calls from C on registries that are new at its beginning. A call whose registry
is there and whose arguments are texts stands for a request: a build, or an operation on one
registry. Any other call is refused with the message of its first check that fails.
-/

namespace PolicyPack.Boundary

variable {ι : Type}

/-! ### Calls -/

/-- A call from C. A registry is given by its index, or by none for null; a build goes with the
files that it meets. -/
inductive Call (ι : Type) where
  | build (files : FileTree) (query : TextArgument) (data bundles ignore : ListArgument)
  | buildManifest (files : FileTree) (path : TextArgument)
  | create (registry : Option ι) (query name source : TextArgument)
  | createFromArtifact (registry : Option ι) (bytes : Option ByteArray)
  | dispose (registry : Option ι) (h : Handle)
  | decide (registry : Option ι) (h : Handle) (input : TextArgument)
  | evaluate (registry : Option ι) (h : Handle) (input : TextArgument)

/-- What a call returns. -/
inductive Answer where
  | build (answer : BuildAnswer)
  | handle (answer : HandleAnswer)
  | bool (answer : BoolAnswer)
  | text (answer : TextAnswer)
  | nothing

section Runs

variable [DecidableEq ι]

/-- The registries with one of them replaced. -/
def store (regs : ι → Registry) : Option ι → Option Registry → ι → Registry
  | some i, some r => Function.update regs i r
  | _, _ => regs

/-- The registries after a call, and what the call returns. -/
def step (regs : ι → Registry) : Call ι → (ι → Registry) × Answer
  | .build t query data bundles ignore => (regs, .build (callBuild t query data bundles ignore))
  | .buildManifest t path => (regs, .build (callBuildManifest t path))
  | .create i query name source =>
    let result := callCreate (i.map regs) query name source
    (store regs i result.1, .handle result.2)
  | .createFromArtifact i bytes =>
    let result := callCreateFromArtifact (i.map regs) bytes
    (store regs i result.1, .handle result.2)
  | .dispose i h => (store regs i (callDispose (i.map regs) h), .nothing)
  | .decide i h input => (regs, .bool (callDecide (i.map regs) h input))
  | .evaluate i h input => (regs, .text (callEvaluate (i.map regs) h input))

/-- Registries without queries. -/
def newRegistries : ι → Registry := fun _ => {}

/-- The registries after a run. -/
def after (regs : ι → Registry) (calls : List (Call ι)) : ι → Registry :=
  calls.foldl (fun regs call => (step regs call).1) regs

end Runs

/-! ### Requests -/

/-- What a call asks of the library. -/
inductive Request (ι : Type) where
  | build (files : FileTree) (query : String) (data bundles ignore : List String)
  | buildManifest (files : FileTree) (path : String)
  | operation (i : ι) (op : Registry.Operation)

/-- What a call asks of the library, if its registry and its arguments are there and are texts. -/
def Call.request? : Call ι → Option (Request ι)
  | .build t query data bundles ignore => do
    return .build t (← textOf? query) (← textsOf? data) (← textsOf? bundles) (← textsOf? ignore)
  | .buildManifest t path => do return .buildManifest t (← textOf? path)
  | .create i query name source => do
    return .operation (← i) (.create (← textOf? query) (← textOf? name) (← textOf? source))
  | .createFromArtifact i bytes => do return .operation (← i) (.createFromArtifact ⟨← bytes⟩)
  | .dispose i h => do return .operation (← i) (.dispose h)
  | .decide i h input => do return .operation (← i) (.decide h (← textOf? input))
  | .evaluate i h input => do return .operation (← i) (.evaluateToText h (← textOf? input))

/-- The operation that a request runs on a registry. -/
def Request.operationOn? [DecidableEq ι] (i : ι) : Request ι → Option Registry.Operation
  | .operation j op => if j = i then some op else none
  | _ => none

/-- The operations that a run runs on a registry, in order. -/
def operationsOn [DecidableEq ι] (i : ι) (calls : List (Call ι)) : List Registry.Operation :=
  calls.filterMap fun call => call.request?.bind (Request.operationOn? i)

/-- The buffer with a message. -/
def messageBuffer (message : String) : Option Buffer := some ⟨message.toUTF8.push 0⟩

/-- What a build returns to C: the bytes of the artifact and their number, or the message. -/
def buildAnswer : Except Failure Artifact → Answer
  | .ok a => .build ⟨some ⟨a.bytes⟩, a.bytes.size, none⟩
  | .error f => .build ⟨none, 0, messageBuffer f.message⟩

/-- What an operation returns to C: the number of the handle, the decision or the text, or the
message. -/
def operationAnswer : Registry.Answer → Answer
  | .issued (.ok h) => .handle ⟨h.number, none⟩
  | .issued (.error f) => .handle ⟨0, messageBuffer f.message⟩
  | .decision (.ok b) => .bool ⟨b, none⟩
  | .decision (.error f) => .bool ⟨false, messageBuffer f.message⟩
  | .text (.ok s) => .text ⟨some ⟨s.toUTF8.push 0⟩, none⟩
  | .text (.error f) => .text ⟨none, messageBuffer f.message⟩
  | _ => .nothing

/-- The registries after a request. -/
def Request.registries [DecidableEq ι] (regs : ι → Registry) : Request ι → ι → Registry
  | .operation i op => Function.update regs i ((regs i).step op).1
  | _ => regs

/-- What the library answers to a request. -/
def Request.answer (regs : ι → Registry) : Request ι → Answer
  | .build t query data bundles ignore =>
    buildAnswer (PolicyPack.build t query (data.map Path.mk) (bundles.map Path.mk) ignore)
  | .buildManifest t path => buildAnswer do
    let m ← BuildManifest.ofFile t ⟨path⟩
    PolicyPack.buildManifest t m ((Path.mk path).parent?.getD ⟨"."⟩)
  | .operation i op => operationAnswer ((regs i).step op).2

/-! ### Refusals -/

/-- What a call asks of its arguments, in the order of the checks. An evaluation looks its handle up
before it looks at its input. -/
def Call.checks : Call ι → List (Check ι)
  | .build _ query data bundles ignore =>
    .text "query" query ::
      (listChecks "data" data ++ (listChecks "bundles" bundles ++ listChecks "ignore" ignore))
  | .buildManifest _ path => [.text "path" path]
  | .create i query name source =>
    [.registry i, .text "query" query, .text "module_name" name, .text "module_source" source]
  | .createFromArtifact i bytes => [.registry i, .artifact bytes]
  | .dispose i _ => [.registry i]
  | .decide i h input => [.registry i, .handle i h, .text "input_json" input]
  | .evaluate i h input => [.registry i, .handle i h, .text "input_json" input]

/-- What a call that is refused with a message returns. -/
def Call.refusal (message : String) : Call ι → Answer
  | .build .. | .buildManifest .. => .build ⟨none, 0, messageBuffer message⟩
  | .create .. | .createFromArtifact .. => .handle ⟨0, messageBuffer message⟩
  | .dispose .. => .nothing
  | .decide .. => .bool ⟨false, messageBuffer message⟩
  | .evaluate .. => .text ⟨none, messageBuffer message⟩

/-! ### Payloads -/

/-- An answer has either a payload or an error; a decision with an error is negative. -/
def Answer.Exclusive : Answer → Prop
  | .build a => a.artifact.isSome = !a.error.isSome
  | .handle a => (a.handle != 0) = !a.error.isSome
  | .bool a => a.error.isSome → a.value = false
  | .text a => a.value.isSome = !a.error.isSome
  | .nothing => True

theorem exclusive_refusal (call : Call ι) (message : String) :
    (call.refusal message).Exclusive := by
  cases call with
  | dispose => trivial
  | decide => exact fun _ => rfl
  | _ => rfl

theorem exclusive_buildAnswer (x : Except Failure Artifact) : (buildAnswer x).Exclusive := by
  cases x <;> rfl

theorem exclusive_operationAnswer {a : Registry.Answer}
    (h : ∀ k, a = .issued (.ok k) → k.number ≠ 0) : (operationAnswer a).Exclusive := by
  cases a with
  | issued x =>
    cases x with
    | ok k => exact bne_iff_ne.mpr (h k rfl)
    | error f => rfl
  | decision x => cases x <;> exact fun h => by first | rfl | cases h
  | text x => cases x <;> rfl
  | _ => trivial

end PolicyPack.Boundary
