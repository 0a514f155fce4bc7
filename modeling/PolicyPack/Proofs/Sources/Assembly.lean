import PolicyPack.Compile
import PolicyPack.Proofs.Sources.SourceSet

/-!
# Assembling source sets

A source set is assembled by adding modules and documents one after the other. Whether all of them
can be added, and what the set then holds, does not depend on their order: two neighbours can change
places, and so can any two. What the set holds comes from what was added.
-/

namespace PolicyPack

open Json

/-- A call that adds to a source set. -/
inductive Addition where
  /-- A module under its key. -/
  | module (key source : String)
  /-- A document that is merged under keys. -/
  | document (keys : List String) (doc : Value) (origin : Path)

namespace Addition

/-- Adds to a source set. -/
def apply (s : SourceSet) : Addition → Except Failure SourceSet
  | .module key source => s.addModule key source
  | .document keys doc origin => s.withData keys doc origin

/-- The document of the call is well-formed. -/
def WellFormed : Addition → Prop
  | .module _ _ => True
  | .document _ doc _ => doc.WellFormed

end Addition

/-- The set that all calls in their order lead to, if all succeed. -/
def assemble (l : List Addition) : Except Failure SourceSet := l.foldlM Addition.apply {}

/-! ### Two calls -/

variable {s t u : SourceSet} {a b : Addition}

theorem Addition.apply_wellFormed (hs : s.WellFormed) (ha : a.WellFormed) (h : a.apply s = .ok t) :
    t.WellFormed := by
  cases a with
  | module key source => exact hs.addModule h
  | document keys doc origin => exact hs.withData ha h

theorem swap_modules {k l x y : String} (hs : s.WellFormed) (ht : s.addModule k x = .ok t)
    (hu : t.addModule l y = .ok u) :
    ∃ t', s.addModule l y = .ok t' ∧ t'.addModule k x = .ok u := by
  obtain ⟨hk, rfl⟩ := SourceSet.addModule_eq_ok.mp ht
  obtain ⟨hl, rfl⟩ := SourceSet.addModule_eq_ok.mp hu
  have hne : k ≠ l := by
    rintro rfl
    rw [Dictionary.find?_insert_self] at hl
    cases hl
  rw [Dictionary.find?_insert_of_ne hne] at hl
  refine ⟨_, SourceSet.addModule_eq_ok.mpr ⟨hl, rfl⟩, SourceSet.addModule_eq_ok.mpr ⟨?_, ?_⟩⟩
  · rw [Dictionary.find?_insert_of_ne hne.symm]
    exact hk
  · have hmodules : Dictionary.insert l y (Dictionary.insert k x s.modules)
        = Dictionary.insert k x (Dictionary.insert l y s.modules) := by
      refine ((hs.modules.insert k x).insert l y).ext ((hs.modules.insert l y).insert k x) ?_
      intro m
      simp only [Dictionary.find?_insert]
      by_cases hkm : k = m
      · subst hkm
        simp [hne.symm]
      · simp [hkm]
    rw [hmodules]

/-- A document that can be added after another one can be added before it, and leaves room for
it. -/
theorem compatible_of_or {v w x y : Value} (hvw : Compatible v w)
    (hface : ∀ p, x.face? p = (v.face? p).or (w.face? p)) (hxy : Compatible x y) :
    Compatible v y ∧ Compatible w y := by
  constructor
  · intro p f g hf hg
    exact hxy p f g (by rw [hface, hf]; rfl) hg
  · intro p f g hf hg
    cases hv : v.face? p with
    | none => exact hxy p f g (by rw [hface, hv, hf]; rfl) hg
    | some e =>
      -- where both documents hold something, it is an object in each
      obtain ⟨rfl, rfl⟩ := hvw p e f hv hf
      exact hxy p .object g (by rw [hface, hv]; rfl) hg

theorem compatible_or {v w x y : Value} (hface : ∀ p, x.face? p = (v.face? p).or (w.face? p))
    (hvy : Compatible v y) (hwy : Compatible w y) : Compatible x y := by
  intro p f g hf hg
  rw [hface] at hf
  cases hv : v.face? p with
  | none =>
    rw [hv, Option.none_or] at hf
    exact hwy p f g hf hg
  | some e =>
    rw [hv, Option.some_or] at hf
    cases hf
    exact hvy p f g hv hg

theorem swap_documents {k l : List String} {d e : Value} {o q : Path} (hs : s.WellFormed)
    (hd : d.WellFormed) (he : e.WellFormed) (ht : s.withData k d o = .ok t)
    (hu : t.withData l e q = .ok u) :
    ∃ t', s.withData l e q = .ok t' ∧ t'.withData k d o = .ok u := by
  obtain ⟨hsd, ⟨_, rfl⟩, htface⟩ := SourceSet.withData_spec hd ht
  obtain ⟨hte, ⟨_, rfl⟩, huface⟩ := SourceSet.withData_spec he hu
  obtain ⟨hse, hde⟩ := compatible_of_or hsd htface hte
  obtain ⟨t', ht'⟩ := SourceSet.exists_withData he hse q
  obtain ⟨-, ⟨_, rfl⟩, ht'face⟩ := SourceSet.withData_spec he ht'
  have ht'd := compatible_or ht'face hsd hde.symm
  obtain ⟨u', hu'⟩ := SourceSet.exists_withData hd ht'd o
  obtain ⟨-, ⟨data, rfl⟩, hu'face⟩ := SourceSet.withData_spec hd hu'
  refine ⟨_, ht', ?_⟩
  have hwu := (hs.withData hd ht).withData he hu
  have hwu' := (hs.withData he ht').withData hd hu'
  have hdata := Value.ext_face? hwu'.data hwu.data fun p => by
    rw [hu'face, ht'face, huface, htface, Option.or_assoc, Option.or_assoc]
    cases hfd : (nestUnder k d).face? p with
    | none => rw [Option.or_none, Option.none_or]
    | some f =>
      cases hfe : (nestUnder l e).face? p with
      | none => rw [Option.none_or, Option.or_none]
      | some g =>
        obtain ⟨rfl, rfl⟩ := hde p f g hfd hfe
        rfl
  rw [hu']
  simp only [Value.object.injEq] at hdata
  simp [hdata]

/-- Two calls in a row that succeed also succeed in the other order, and lead to the same set. -/
theorem Addition.swap (hs : s.WellFormed) (ha : a.WellFormed) (hb : b.WellFormed)
    (ht : a.apply s = .ok t) (hu : b.apply t = .ok u) :
    ∃ t', b.apply s = .ok t' ∧ a.apply t' = .ok u := by
  cases a with
  | module k x =>
    cases b with
    | module l y => exact swap_modules hs ht hu
    | document l e q =>
      obtain ⟨hk, rfl⟩ := SourceSet.addModule_eq_ok.mp ht
      obtain ⟨data, hmerge, rfl⟩ := SourceSet.withData_eq_ok.mp hu
      exact ⟨_, SourceSet.withData_eq_ok.mpr ⟨data, hmerge, rfl⟩,
        SourceSet.addModule_eq_ok.mpr ⟨hk, rfl⟩⟩
  | document k d o =>
    cases b with
    | module l y =>
      obtain ⟨data, hmerge, rfl⟩ := SourceSet.withData_eq_ok.mp ht
      obtain ⟨hl, rfl⟩ := SourceSet.addModule_eq_ok.mp hu
      exact ⟨_, SourceSet.addModule_eq_ok.mpr ⟨hl, rfl⟩,
        SourceSet.withData_eq_ok.mpr ⟨data, hmerge, rfl⟩⟩
    | document l e q => exact swap_documents hs ha hb ht hu

/-! ### Any order -/

theorem foldlM_apply_wellFormed {l : List Addition} (hs : s.WellFormed)
    (hl : ∀ a ∈ l, a.WellFormed) (h : l.foldlM Addition.apply s = .ok t) : t.WellFormed := by
  induction l generalizing s with
  | nil =>
    cases h
    exact hs
  | cons a l ih =>
    rw [List.foldlM_cons] at h
    obtain ⟨u, hu, h⟩ := bind_eq_ok.mp h
    exact ih (Addition.apply_wellFormed hs (hl a (by simp)) hu) (fun b hb => hl b (by simp [hb])) h

/-- Calls that all succeed succeed in any order, and lead to the same set. -/
theorem foldlM_apply_perm {l l' : List Addition} (h : l.Perm l') (hl : ∀ a ∈ l, a.WellFormed)
    (hs : s.WellFormed) (ht : l.foldlM Addition.apply s = .ok t) :
    l'.foldlM Addition.apply s = .ok t := by
  induction h generalizing s with
  | nil => exact ht
  | @cons a l l' _ ih =>
    rw [List.foldlM_cons] at ht ⊢
    obtain ⟨u, hu, ht⟩ := bind_eq_ok.mp ht
    have hwu := Addition.apply_wellFormed hs (hl a (by simp)) hu
    rw [hu, ok_bind]
    exact ih (fun b hb => hl b (by simp [hb])) hwu ht
  | @swap a b l =>
    rw [List.foldlM_cons] at ht
    obtain ⟨u, hu, ht⟩ := bind_eq_ok.mp ht
    rw [List.foldlM_cons] at ht
    obtain ⟨v, hv, ht⟩ := bind_eq_ok.mp ht
    obtain ⟨u', hu', hv'⟩ := Addition.swap hs (hl b (by simp)) (hl a (by simp)) hu hv
    rw [List.foldlM_cons, hu', ok_bind, List.foldlM_cons, hv', ok_bind]
    exact ht
  | trans h₁ _ ih₁ ih₂ =>
    exact ih₂ (fun a ha => hl a (h₁.mem_iff.mpr ha)) hs (ih₁ hl hs ht)

theorem assemble_perm {l l' : List Addition} (h : l.Perm l') (hl : ∀ a ∈ l, a.WellFormed) :
    assemble l = .ok s ↔ assemble l' = .ok s :=
  ⟨foldlM_apply_perm h hl SourceSet.wellFormed_empty,
    foldlM_apply_perm h.symm (fun a ha => hl a (h.mem_iff.mpr ha)) SourceSet.wellFormed_empty⟩

/-! ### What a set holds -/

/-- What is seen at a key path of the document of the call, under its keys. -/
def Addition.face? : Addition → List String → Option Face
  | .module _ _, _ => none
  | .document keys doc _, p => (nestUnder keys doc).face? p

/-- A call shows what was seen before, and what is seen of its document. -/
theorem Addition.apply_face? (ha : a.WellFormed) (h : a.apply s = .ok t) (p : List String)
    (f : Face) :
    (Value.object t.data).face? p = some f
      ↔ (Value.object s.data).face? p = some f ∨ a.face? p = some f := by
  cases a with
  | module key source =>
    obtain ⟨-, rfl⟩ := SourceSet.addModule_eq_ok.mp h
    simp [face?]
  | document keys doc origin =>
    obtain ⟨hc, -, hface⟩ := SourceSet.withData_spec ha h
    rw [hface, Option.or_eq_some_iff, face?]
    refine ⟨Or.imp_right And.right, ?_⟩
    rintro (hs | hdoc)
    · exact .inl hs
    · cases hs : (Value.object s.data).face? p with
      | none => exact .inr ⟨rfl, hdoc⟩
      | some g =>
        obtain ⟨rfl, rfl⟩ := hc p g f hs hdoc
        exact .inl rfl

theorem foldlM_apply_face? {l : List Addition} (hl : ∀ a ∈ l, a.WellFormed)
    (h : l.foldlM Addition.apply s = .ok t) (p : List String) (f : Face) :
    (Value.object t.data).face? p = some f
      ↔ (Value.object s.data).face? p = some f ∨ ∃ a ∈ l, a.face? p = some f := by
  induction l generalizing s with
  | nil =>
    cases h
    simp
  | cons a l ih =>
    rw [List.foldlM_cons] at h
    obtain ⟨u, hu, h⟩ := bind_eq_ok.mp h
    rw [ih (fun b hb => hl b (by simp [hb])) h, Addition.apply_face? (hl a (by simp)) hu, or_assoc]
    simp

/-- Every tip of the assembled data is a tip of a document. -/
theorem exists_document_of_isTip {l : List Addition} (hl : ∀ a ∈ l, a.WellFormed)
    (h : assemble l = .ok s) {p : List String} (hp : p ≠ []) {v : Value}
    (hv : (Value.object s.data).at? p = some v) (htip : v.IsTip) :
    ∃ keys doc origin q, .document keys doc origin ∈ l ∧ p = keys ++ q ∧ doc.at? q = some v := by
  have hshown (q : List String) (f : Face) (hq : q ≠ []) :
      (Value.object s.data).face? q = some f ↔ ∃ a ∈ l, a.face? q = some f := by
    rw [foldlM_apply_face? hl h]
    cases q with
    | nil => exact absurd rfl hq
    | cons k q => simp
  have hface : (Value.object s.data).face? p = some v.face := by rw [Value.face?, hv, Option.map_some]
  obtain ⟨a, ha, hap⟩ := (hshown p v.face hp).mp hface
  cases a with
  | module key source => cases hap
  | document keys doc origin =>
    obtain ⟨w, hw, hwv⟩ := Option.map_eq_some_iff.mp hap
    have hwtip : w.IsTip := by
      rw [Value.isTip_iff_of_at? hw]
      intro k
      cases hk : (nestUnder keys doc).face? (p ++ [k]) with
      | none => rfl
      | some f =>
        -- what is seen of the document below the path is seen of the data too
        have hbelow := (hshown (p ++ [k]) f (by simp)).mpr ⟨_, ha, hk⟩
        rw [(Value.isTip_iff_of_at? hv).mp htip k] at hbelow
        cases hbelow
    obtain rfl := Value.eq_of_face_eq hwtip htip hwv
    obtain ⟨q, rfl, hq⟩ := exists_append_of_isTip hw hwtip
    exact ⟨keys, doc, origin, q, ha, rfl, hq⟩

/-- The module that a call adds, under its key. -/
def Addition.module? : Addition → Option (String × String)
  | .module key source => some (key, source)
  | .document .. => none

theorem modules_of_foldlM_apply {l : List Addition} (h : l.foldlM Addition.apply s = .ok t) :
    t.modules.Perm (l.filterMap Addition.module? ++ s.modules) := by
  induction l generalizing s with
  | nil =>
    cases h
    exact .refl _
  | cons a l ih =>
    rw [List.foldlM_cons] at h
    obtain ⟨u, hu, h⟩ := bind_eq_ok.mp h
    refine (ih h).trans ?_
    cases a with
    | module k x =>
      obtain ⟨hk, rfl⟩ := SourceSet.addModule_eq_ok.mp hu
      exact ((Dictionary.insert_perm hk).append_left _).trans List.perm_middle
    | document keys doc origin =>
      obtain ⟨data, -, rfl⟩ := SourceSet.withData_eq_ok.mp hu
      exact .refl _

/-- The modules of the set are those that were added, each under a key of its own. -/
theorem modules_of_assemble {l : List Addition} (h : assemble l = .ok s) :
    s.modules.Perm (l.filterMap Addition.module?) :=
  (modules_of_foldlM_apply h).trans (.of_eq (List.append_nil _))

theorem mem_modules_iff {l : List Addition} (h : assemble l = .ok s) {key source : String} :
    (key, source) ∈ s.modules ↔ .module key source ∈ l := by
  rw [(modules_of_assemble h).mem_iff, List.mem_filterMap]
  constructor
  · rintro ⟨a, ha, hmodule⟩
    cases a with
    | module k x =>
      cases hmodule
      exact ha
    | document => cases hmodule
  · exact fun ha => ⟨_, ha, rfl⟩

end PolicyPack
