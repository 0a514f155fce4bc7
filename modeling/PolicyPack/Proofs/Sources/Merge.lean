import PolicyPack.Proofs.Json.KeyPath
import PolicyPack.Sources.Merge

/-!
# What a merge does

Two values merge without a conflict when at no key path both hold something that is not an object
on both sides. What is seen of the result is then what is seen of the one or of the other, so the
condition and the result are the same whichever of the two was there first.
-/

namespace PolicyPack

open Json

/-- Wherever both values hold something, both hold an object. -/
def Compatible (v w : Value) : Prop :=
  ∀ p x y, v.face? p = some x → w.face? p = some y → x = .object ∧ y = .object

theorem Compatible.symm {v w : Value} (h : Compatible v w) : Compatible w v :=
  fun p x y hx hy => (h p y x hy hx).symm

/-- Compatible values are objects. -/
theorem Compatible.exists_objects {v w : Value} (h : Compatible v w) :
    ∃ es fs, v = .object es ∧ w = .object fs := by
  obtain ⟨hv, hw⟩ := h [] v.face w.face (by simp) (by simp)
  obtain ⟨es, rfl⟩ := Value.face_eq_object.mp hv
  obtain ⟨fs, rfl⟩ := Value.face_eq_object.mp hw
  exact ⟨es, fs, rfl, rfl⟩

/-- Objects are compatible when their values under common keys are. -/
theorem compatible_object {es fs : List (String × Value)} :
    Compatible (.object es) (.object fs) ↔
      ∀ k a b, Dictionary.find? k es = some a → Dictionary.find? k fs = some b →
        Compatible a b := by
  constructor
  · intro h k a b ha hb p x y hx hy
    exact h (k :: p) x y (by simpa [ha] using hx) (by simpa [hb] using hy)
  · intro h p x y hx hy
    cases p with
    | nil =>
      rw [Value.face?_nil] at hx hy
      exact ⟨(Option.some.inj hx).symm, (Option.some.inj hy).symm⟩
    | cons k p =>
      rw [Value.face?_object_cons] at hx hy
      obtain ⟨a, ha, hx⟩ := Option.bind_eq_some_iff.mp hx
      obtain ⟨b, hb, hy⟩ := Option.bind_eq_some_iff.mp hy
      exact h k a b ha hb p x y hx hy

/-! ### Entries -/

/-- The value at a key after a merge, of the values that were there on both sides. -/
def joined : Option Value → Option Value → Option Value
  | some a, some b => some (mergeValue a b).1
  | some a, none => some a
  | none, b => b

theorem exists_joined (a? : Option Value) (x : Value) : ∃ y, joined a? (some x) = some y := by
  cases a? <;> exact ⟨_, rfl⟩

/-- An entry without a conflict is put at its key, joined with what was there. -/
theorem mergeEntries_cons {data : Dictionary Value} {k : String} {x y : Value}
    {r : List (String × Value)}
    (hk : ∀ a, Dictionary.find? k data = some a → (mergeValue a x).2 = none)
    (hy : joined (Dictionary.find? k data) (some x) = some y) :
    mergeEntries data ((k, x) :: r) = mergeEntries (Dictionary.insert k y data) r := by
  rw [mergeEntries]
  cases hd : Dictionary.find? k data with
  | none =>
    rw [hd] at hy
    cases hy
    rfl
  | some a =>
    rw [hd] at hy
    cases hy
    have hpair : mergeValue a x = ((mergeValue a x).1, none) := Prod.ext rfl (hk a hd)
    simp only
    rw [hpair]

/-- The keys of the entries that are still to come are unlike the first. -/
theorem find?_insert_rest {data r : Dictionary Value} {k : String} {x y : Value}
    (hr : Dictionary.Sorted ((k, x) :: r)) {l : String} {b : Value}
    (hb : Dictionary.find? l r = some b) :
    Dictionary.find? l (Dictionary.insert k y data) = Dictionary.find? l data ∧
      Dictionary.find? l ((k, x) :: r) = some b := by
  have hne : k ≠ l := by
    rintro rfl
    rw [hr.find?_tail] at hb
    cases hb
  exact ⟨by simp [Dictionary.find?_insert, hne], by rwa [Dictionary.find?_cons_of_ne hne]⟩

/-- Entries merge without a conflict when the values under common keys do. -/
theorem mergeEntries_eq_none_iff {data new : Dictionary Value} (hn : Dictionary.Sorted new) :
    (mergeEntries data new).2 = none ↔
      ∀ k a b, Dictionary.find? k data = some a → Dictionary.find? k new = some b →
        (mergeValue a b).2 = none := by
  induction new generalizing data with
  | nil => simp [mergeEntries]
  | cons e r ih =>
    obtain ⟨k, x⟩ := e
    have hr := (Dictionary.sorted_cons.mp hn).2
    constructor
    · intro h
      have hk : ∀ a, Dictionary.find? k data = some a → (mergeValue a x).2 = none := by
        intro a ha
        cases hc : mergeValue a x with
        | mk v c =>
          cases c with
          | none => rfl
          | some keys => simp [mergeEntries, ha, hc] at h
      obtain ⟨y, hy⟩ := exists_joined (Dictionary.find? k data) x
      rw [mergeEntries_cons hk hy, ih hr] at h
      intro l a b ha hb
      by_cases hkl : k = l
      · subst hkl
        rw [Dictionary.find?_cons_self] at hb
        cases hb
        exact hk a ha
      · rw [Dictionary.find?_cons_of_ne hkl] at hb
        exact h l a b (by rwa [(find?_insert_rest hn hb).1]) hb
    · intro h
      have hk : ∀ a, Dictionary.find? k data = some a → (mergeValue a x).2 = none :=
        fun a ha => h k a x ha (Dictionary.find?_cons_self ..)
      obtain ⟨y, hy⟩ := exists_joined (Dictionary.find? k data) x
      rw [mergeEntries_cons hk hy, ih hr]
      intro l a b ha hb
      obtain ⟨hl, hcons⟩ : Dictionary.find? l (Dictionary.insert k y data) = Dictionary.find? l data
          ∧ Dictionary.find? l ((k, x) :: r) = some b := find?_insert_rest hn hb
      exact h l a b (hl ▸ ha) hcons

/-- Without a conflict every key holds what both sides held there, joined. -/
theorem find?_mergeEntries {data new : Dictionary Value} (hn : Dictionary.Sorted new)
    (h : (mergeEntries data new).2 = none) (l : String) :
    Dictionary.find? l (mergeEntries data new).1
      = joined (Dictionary.find? l data) (Dictionary.find? l new) := by
  induction new generalizing data with
  | nil =>
    rw [mergeEntries, Dictionary.find?_nil]
    cases Dictionary.find? l data <;> rfl
  | cons e r ih =>
    obtain ⟨k, x⟩ := e
    have hr := (Dictionary.sorted_cons.mp hn).2
    have hk : ∀ a, Dictionary.find? k data = some a → (mergeValue a x).2 = none :=
      fun a ha => (mergeEntries_eq_none_iff hn).mp h k a x ha (Dictionary.find?_cons_self ..)
    obtain ⟨y, hy⟩ := exists_joined (Dictionary.find? k data) x
    rw [mergeEntries_cons hk hy] at h ⊢
    rw [ih hr h, Dictionary.find?_insert]
    by_cases hkl : k = l
    · subst hkl
      rw [if_pos rfl, hn.find?_tail, Dictionary.find?_cons_self, hy]
      rfl
    · rw [if_neg hkl, Dictionary.find?_cons_of_ne hkl]

/-! ### Values -/

theorem not_compatible_leaf {v w : Value} (h : w.face ≠ .object) : ¬ Compatible v w := by
  intro hc
  obtain ⟨_, fs, -, rfl⟩ := hc.exists_objects
  exact h rfl

/-- A value that is no object merges with nothing. -/
theorem mergeValue_leaf {new : Value} (h : new.face ≠ .object) (old : Value) :
    mergeValue old new = (old, some []) := by
  cases new with
  | object entries => exact absurd rfl h
  | _ =>
    rw [mergeValue]
    rintro _ ⟨⟩

theorem mergeValue_object (data new : List (String × Value)) :
    mergeValue (.object data) (.object new)
      = (.object (mergeEntries data new).1, (mergeEntries data new).2) := by
  rw [mergeValue]

theorem mergeValue_spec_leaf {new : Value} (h : new.face ≠ .object) (old : Value) :
    ((mergeValue old new).2 = none ↔ Compatible old new) ∧
    (Compatible old new →
      ∀ p, (mergeValue old new).1.face? p = (old.face? p).or (new.face? p)) := by
  refine ⟨?_, fun hc => absurd hc (not_compatible_leaf h)⟩
  simp [mergeValue_leaf h, not_compatible_leaf h]

/-- Values merge without a conflict exactly when they are compatible, and then what is seen of the
result is what is seen of the one or of the other. -/
theorem mergeValue_spec {new : Value} (hn : new.WellFormed) (old : Value) :
    ((mergeValue old new).2 = none ↔ Compatible old new) ∧
    (Compatible old new → ∀ p, (mergeValue old new).1.face? p = (old.face? p).or (new.face? p)) := by
  induction new generalizing old with
  | object entries ih =>
    obtain ⟨hsorted, hentries⟩ := Value.each_object.mp hn
    by_cases hold : ∃ data, old = .object data
    · obtain ⟨data, rfl⟩ := hold
      have hboth {k a b} (hb : Dictionary.find? k entries = some b) :=
        ih (k, b) (Dictionary.mem_of_find? hb) (hentries _ (Dictionary.mem_of_find? hb)) a
      have hiff : (mergeEntries data entries).2 = none
          ↔ Compatible (.object data) (.object entries) := by
        rw [mergeEntries_eq_none_iff hsorted, compatible_object]
        exact forall_congr' fun k => forall_congr' fun a => forall_congr' fun b =>
          forall_congr' fun _ => forall_congr' fun hb => (hboth hb).1
      rw [mergeValue_object]
      refine ⟨hiff, fun hc p => ?_⟩
      cases p with
      | nil => simp
      | cons k p =>
        rw [Value.face?_object_cons, find?_mergeEntries hsorted (hiff.mpr hc)]
        cases hd : Dictionary.find? k data with
        | none => simp [hd, joined]
        | some a =>
          cases he : Dictionary.find? k entries with
          | none => simp [hd, he, joined]
          | some b =>
            have hab := compatible_object.mp hc k a b hd he
            simp [hd, he, joined, (hboth he).2 hab p]
    · have hmerge : (mergeValue old (.object entries)).2 = some [] := by
        cases old with
        | object data => exact absurd ⟨data, rfl⟩ hold
        | _ => rw [mergeValue]; rintro _ ⟨⟩
      have hno : ¬ Compatible old (.object entries) := by
        intro hc
        obtain ⟨data, _, hdata, -⟩ := hc.exists_objects
        exact hold ⟨data, hdata⟩
      exact ⟨by simp [hmerge, hno], fun hc => absurd hc hno⟩
  | _ => exact mergeValue_spec_leaf (by simp [Value.face]) old

/-! ### Well-formed data -/

theorem wellFormed_insert {data : Dictionary Value} (hd : (Value.object data).WellFormed)
    {x : Value} (hx : x.WellFormed) (k : String) :
    (Value.object (Dictionary.insert k x data)).WellFormed := by
  obtain ⟨hsorted, hdata⟩ := Value.each_object.mp hd
  refine .object (hsorted.insert k x) fun e he => ?_
  rcases Dictionary.mem_insert he with rfl | he
  · exact hx
  · exact hdata e he

/-- Whether or not there is a conflict, what was merged so far is well-formed. -/
theorem wellFormed_mergeEntries {data new : Dictionary Value} (hd : (Value.object data).WellFormed)
    (hn : ∀ e ∈ new, e.2.WellFormed)
    (hmerge : ∀ e ∈ new, ∀ a : Value, a.WellFormed → (mergeValue a e.2).1.WellFormed) :
    (Value.object (mergeEntries data new).1).WellFormed := by
  induction new generalizing data with
  | nil => exact hd
  | cons e r ih =>
    obtain ⟨k, x⟩ := e
    have hrest {y : Value} (hy : y.WellFormed) := ih (wellFormed_insert hd hy k)
      (fun e he => hn e (by simp [he])) fun e he => hmerge e (by simp [he])
    rw [mergeEntries]
    cases hfind : Dictionary.find? k data with
    | none => exact hrest (hn (k, x) (by simp))
    | some a =>
      have ha := (Value.each_object.mp hd).2 _ (Dictionary.mem_of_find? hfind)
      have hax := hmerge (k, x) (by simp) a ha
      cases hc : mergeValue a x with
      | mk v c =>
        rw [hc] at hax
        cases c with
        | none => simpa [hc] using hrest hax
        | some keys => simpa [hc] using wellFormed_insert hd hax k

theorem wellFormed_mergeValue {old new : Value} (ho : old.WellFormed) (hn : new.WellFormed) :
    (mergeValue old new).1.WellFormed := by
  induction new generalizing old with
  | object entries ih =>
    obtain ⟨-, hentries⟩ := Value.each_object.mp hn
    cases old with
    | object data =>
      rw [mergeValue_object]
      exact wellFormed_mergeEntries ho hentries fun e he a ha => ih e he ha (hentries e he)
    | _ =>
      rw [mergeValue]
      · exact ho
      · rintro _ ⟨⟩
  | _ =>
    rw [mergeValue_leaf (by simp [Value.face])]
    exact ho

/-! ### Documents under keys -/

theorem nestUnder_cons (k : String) (keys : List String) (v : Value) :
    nestUnder (k :: keys) v = .object [(k, nestUnder keys v)] := rfl

theorem wellFormed_nestUnder {v : Value} (hv : v.WellFormed) (keys : List String) :
    (nestUnder keys v).WellFormed := by
  induction keys with
  | nil => exact hv
  | cons k keys ih =>
    refine .object (List.pairwise_singleton ..) fun e he => ?_
    rw [List.mem_singleton.mp he]
    exact ih

/-- The tips of a document under keys are those of the document. -/
theorem exists_append_of_isTip {keys p : List String} {doc v : Value}
    (h : (nestUnder keys doc).at? p = some v) (hv : v.IsTip) :
    ∃ q, p = keys ++ q ∧ doc.at? q = some v := by
  induction keys generalizing p with
  | nil => exact ⟨p, rfl, h⟩
  | cons k keys ih =>
    rw [nestUnder_cons] at h
    cases p with
    | nil =>
      rw [Value.at?_nil] at h
      cases h
      cases hv
    | cons l p =>
      rw [Value.at?_object_cons] at h
      obtain ⟨x, hx, h⟩ := Option.bind_eq_some_iff.mp h
      obtain ⟨rfl, rfl⟩ : l = k ∧ nestUnder keys doc = x := by
        by_cases hkl : k = l
        · subst hkl
          rw [Dictionary.find?_cons_self] at hx
          exact ⟨rfl, Option.some.inj hx⟩
        · rw [Dictionary.find?_cons_of_ne hkl] at hx
          cases hx
      obtain ⟨q, rfl, hq⟩ := ih h
      exact ⟨q, rfl, hq⟩

end PolicyPack
