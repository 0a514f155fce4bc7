import PolicyPack.Boundary.Buffer
import PolicyPack.Registry

/-!
# Arguments from C

A text argument is a pointer to bytes that end with a zero byte, a list argument a pointer to such
pointers and a length. Either pointer may be null. Arguments are decoded one by one, and the first
that is no text is reported by its name.
-/

namespace PolicyPack.Boundary

/-- Why a call is refused or fails. -/
inductive CallFault where
  /-- No registry. -/
  | nullRegistry
  /-- No artifact. -/
  | nullArtifact
  /-- No pointer where a text is expected. -/
  | nullText (name : String)
  /-- No pointer where a list of some length is expected. -/
  | nullList (name : String) (length : Nat)
  /-- Bytes that are no text. -/
  | notText (name : String) (fault : Text.Utf8Fault)
  /-- A failure of the operation itself. -/
  | failed (failure : Failure)
deriving DecidableEq, Repr

/-- The wording of the fault. -/
def CallFault.message : CallFault → String
  | .nullRegistry => "registry must not be null"
  | .nullArtifact => "artifact must not be null"
  | .nullText name => name ++ " must not be null"
  | .nullList name length => name ++ s!" must not be null when its length is {length}"
  | .notText name f => name ++ " is not valid utf-8: " ++ f.message
  | .failed f => f.message

/-- A text argument: the bytes behind a pointer, or none for null. -/
abbrev TextArgument := Option ByteArray

/-- A list argument. -/
inductive ListArgument where
  /-- A null pointer with a length. -/
  | null (length : Nat)
  | items (texts : List TextArgument)

/-- Decodes a text argument with a name. -/
def decodeText (name : String) : TextArgument → Except CallFault String
  | none => .error (.nullText name)
  | some bytes =>
    match Text.ofUtf8 (beforeZero bytes) with
    | .ok s => .ok s
    | .error f => .error (.notText name f)

/-- Decodes the items of a list argument from a position on. -/
def decodeItems (name : String) (index : Nat) : List TextArgument → Except CallFault (List String)
  | [] => .ok []
  | x :: r => do
    let s ← decodeText (name ++ s!"[{index}]") x
    return s :: (← decodeItems name (index + 1) r)

/-- Decodes a list argument with a name; a null pointer is an empty list if its length is zero. -/
def decodeList (name : String) : ListArgument → Except CallFault (List String)
  | .null 0 => .ok []
  | .null length => .error (.nullList name length)
  | .items texts => decodeItems name 0 texts

/-- Requires a registry. -/
def requireRegistry : Option Registry → Except CallFault Registry
  | some r => .ok r
  | none => .error .nullRegistry

/-- The outcome of an operation as that of a call. -/
def outcome {α : Type} : Except Failure α → Except CallFault α
  | .ok x => .ok x
  | .error f => .error (.failed f)

end PolicyPack.Boundary
