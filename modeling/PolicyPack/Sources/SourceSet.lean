import PolicyPack.Failure
import PolicyPack.Sources.Bundle
import PolicyPack.Sources.Merge

/-!
# Source sets

A source set collects what a policy is compiled from: modules under distinct keys, one data tree
into which all documents are merged, and the manifests of the bundles.
-/

namespace PolicyPack

/-- Modules, data and bundle manifests. -/
structure SourceSet where
  /-- The texts of the modules, sorted by key. -/
  modules : Dictionary String := []
  /-- The entries of the data tree, sorted by key. -/
  data : Dictionary Json.Value := []
  /-- The manifests of the bundles, in the order in which they were loaded. -/
  bundles : List BundleManifest := []

namespace SourceSet

/-- Adds a module under a key that is not in use. -/
def addModule (s : SourceSet) (key source : String) : Except Failure SourceSet :=
  match Dictionary.find? key s.modules with
  | some _ => .error (.load (.duplicateModule key))
  | none => .ok { s with modules := Dictionary.insert key source s.modules }

/-- Merges a document under keys into the data tree. The set keeps what was merged before a
conflict. -/
def mergeData (s : SourceSet) (keys : List String) (doc : Json.Value) (origin : Path) :
    SourceSet × Except Failure Unit :=
  match nestUnder keys doc with
  | .object entries =>
    match mergeEntries s.data entries with
    | (data, none) => ({ s with data := data }, .ok ())
    | (data, some place) => ({ s with data := data }, .error (.load (.conflict origin place)))
  | _ => (s, .error (.load (.rootNotObject origin)))

/-- The set with a document merged into its data, or the failure of the merge. -/
def withData (s : SourceSet) (keys : List String) (doc : Json.Value) (origin : Path) :
    Except Failure SourceSet :=
  match s.mergeData keys doc origin with
  | (s, .ok ()) => .ok s
  | (_, .error f) => .error f

/-- Adds the manifest of a bundle. -/
def addBundle (s : SourceSet) (m : BundleManifest) : SourceSet :=
  { s with bundles := s.bundles ++ [m] }

/-- How many modules there are. -/
def moduleCount (s : SourceSet) : Nat := s.modules.length

/-- Whether there are neither modules nor data. -/
def isEmpty (s : SourceSet) : Bool := s.modules.isEmpty && s.data.isEmpty

end SourceSet

end PolicyPack
