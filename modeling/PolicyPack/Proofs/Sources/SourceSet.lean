import PolicyPack.Proofs.Outcome
import PolicyPack.Proofs.Sources.Merge
import PolicyPack.Sources.SourceSet

/-!
# Adding to a source set

A module is added when its key is free, and a document when it is compatible with the data under its
keys. Each addition changes nothing else, and keeps modules and data well-formed.
-/

namespace PolicyPack.SourceSet

open Json

/-- Modules and data are sorted by key, and whole numbers in the data fit 64 bits. -/
structure WellFormed (s : SourceSet) : Prop where
  modules : Dictionary.Sorted s.modules
  data : (Value.object s.data).WellFormed

variable {s t : SourceSet}

theorem wellFormed_empty : ({} : SourceSet).WellFormed :=
  ⟨Dictionary.sorted_nil, .object Dictionary.sorted_nil (by simp)⟩

/-! ### Modules -/

theorem addModule_eq_ok {key source : String} :
    s.addModule key source = .ok t ↔ Dictionary.find? key s.modules = none ∧
      t = { s with modules := Dictionary.insert key source s.modules } := by
  unfold addModule
  cases h : Dictionary.find? key s.modules with
  | none => simp [eq_comm]
  | some old => simp

theorem WellFormed.addModule (hs : s.WellFormed) {key source : String}
    (h : s.addModule key source = .ok t) : t.WellFormed := by
  obtain ⟨-, rfl⟩ := addModule_eq_ok.mp h
  exact ⟨hs.modules.insert key source, hs.data⟩

/-! ### Documents -/

/-- A document is added by a merge without conflict under its keys. -/
theorem withData_eq_ok {keys : List String} {doc : Value} {origin : Path} :
    s.withData keys doc origin = .ok t ↔
      ∃ data, mergeValue (.object s.data) (nestUnder keys doc) = (.object data, none) ∧
        t = { s with data := data } := by
  unfold withData mergeData
  cases hnest : nestUnder keys doc with
  | object entries =>
    rw [mergeValue_object]
    cases hmerge : mergeEntries s.data entries with
    | mk data conflict =>
      cases conflict with
      | none => simp [hmerge, eq_comm]
      | some place => simp [hmerge]
  | _ => simp [mergeValue]

theorem exists_withData {keys : List String} {doc : Value} (hd : doc.WellFormed)
    (hc : Compatible (.object s.data) (nestUnder keys doc)) (origin : Path) :
    ∃ t, s.withData keys doc origin = .ok t := by
  have hnone := (mergeValue_spec (wellFormed_nestUnder hd keys) (.object s.data)).1.mpr hc
  obtain ⟨_, entries, -, hnest⟩ := hc.exists_objects
  rw [hnest, mergeValue_object] at hnone
  refine ⟨{ s with data := (mergeEntries s.data entries).1 }, withData_eq_ok.mpr ⟨_, ?_, rfl⟩⟩
  rw [hnest, mergeValue_object, hnone]

theorem withData_spec {keys : List String} {doc : Value} (hd : doc.WellFormed) {origin : Path}
    (h : s.withData keys doc origin = .ok t) :
    Compatible (.object s.data) (nestUnder keys doc) ∧
    (∃ data, t = { s with data := data }) ∧
    ∀ p, (Value.object t.data).face? p
      = ((Value.object s.data).face? p).or ((nestUnder keys doc).face? p) := by
  obtain ⟨data, hmerge, rfl⟩ := withData_eq_ok.mp h
  obtain ⟨hnone, hface⟩ := mergeValue_spec (wellFormed_nestUnder hd keys) (.object s.data)
  rw [hmerge] at hnone hface
  have hc := hnone.mp rfl
  exact ⟨hc, ⟨data, rfl⟩, hface hc⟩

theorem WellFormed.withData (hs : s.WellFormed) {keys : List String} {doc : Value}
    (hd : doc.WellFormed) {origin : Path} (h : s.withData keys doc origin = .ok t) :
    t.WellFormed := by
  obtain ⟨data, hmerge, rfl⟩ := withData_eq_ok.mp h
  have hw := wellFormed_mergeValue hs.data (wellFormed_nestUnder hd keys)
  rw [hmerge] at hw
  exact ⟨hs.modules, hw⟩

end PolicyPack.SourceSet
