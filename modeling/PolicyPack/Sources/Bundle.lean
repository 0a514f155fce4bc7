import PolicyPack.Json.Printer
import PolicyPack.Json.Typed

/-!
# Bundle manifests

A bundle may say which part of the data and of the packages is its own. A root owns itself and all
that is below it; without a list of roots a bundle owns everything.
-/

namespace PolicyPack

/-- What a bundle says of itself. -/
structure BundleManifest where
  /-- The revision of the bundle. -/
  revision : String := ""
  /-- The roots of what the bundle owns. -/
  roots : Option (List String) := none
  /-- Data of any kind about the bundle. -/
  metadata : Option Json.Value := none

namespace BundleManifest

/-- The text without the slashes around it. -/
def trimSlashes (root : List Char) : List Char :=
  ((root.dropWhile (· == '/')).reverse.dropWhile (· == '/')).reverse

/-- Whether a root without slashes around it owns a path. -/
def rootOwns (root path : List Char) : Bool :=
  root.isEmpty || path == root
    || (root.isPrefixOf path && (path.drop root.length).head? == some '/')

/-- Whether the bundle owns a path whose parts are divided by slashes. -/
def owns (m : BundleManifest) (path : String) : Bool :=
  match m.roots with
  | none => true
  | some roots => roots.any fun root => rootOwns (trimSlashes root.toList) path.toList

/-! ### Text -/

/-- The fields of a manifest that have been read. -/
structure Draft where
  revision : Option String := none
  roots : Option (Option (List String)) := none
  metadata : Option (Option Json.Value) := none

/-- How a manifest is read; every field may be left out. -/
def record : Json.Record Draft BundleManifest where
  name := "BundleManifest"
  blank := {}
  fields := [
    { name := "revision"
      present := fun d => d.revision.isSome
      mayLack := true
      read := fun _ d s => do
        let (x, s) ← Json.text s
        return ({ d with revision := some x }, s) },
    { name := "roots"
      present := fun d => d.roots.isSome
      mayLack := true
      read := fun levels d s => do
        let (x, s) ← Json.optional (Json.listOf fun _ => Json.text) levels s
        return ({ d with roots := some x }, s) },
    { name := "metadata"
      present := fun d => d.metadata.isSome
      mayLack := true
      read := fun levels d s => do
        let (x, s) ← Json.optional Json.anyValue levels s
        return ({ d with metadata := some x }, s) }]
  finish d := some {
    revision := d.revision.getD ""
    roots := d.roots.join
    metadata := d.metadata.join }

/-- Reads the text of a manifest. -/
def ofText (text : String) : Except Json.Fault BundleManifest :=
  Json.whole (record.read Json.nestingLimit (Json.symbolsOfText text))

/-- The data value of a manifest's roots. -/
def rootsValue (m : BundleManifest) : Json.Value :=
  match m.roots with
  | none => .null
  | some roots => .array (roots.map Json.Value.string)

/-- The text of a manifest. -/
def render (m : BundleManifest) : String :=
  Json.objectOf [
    ("revision", Json.quote m.revision),
    ("roots", m.rootsValue.render),
    ("metadata", (m.metadata.getD .null).render)]

end BundleManifest

end PolicyPack
