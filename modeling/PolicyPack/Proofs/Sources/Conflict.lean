import PolicyPack.Proofs.Sources.SourceSet

/-!
# Where a merge stops

A merge goes through the entries of a document in the order of their keys, and stops at the first
that does not go together with what is there. The keys that lead to it are the least key path at
which both sides hold something and not both an object. What is left behind is the data joined with
all of the document that stands before that path, and with nothing else of it.
-/

namespace PolicyPack

open Json

/-! ### The order of key paths -/

/-- Key paths are compared by the first key that differs, and a beginning comes before the whole. -/
def Precedes (p q : List String) : Prop := List.Lex (· < ·) p q

theorem not_precedes_nil (p : List String) : ¬ Precedes p [] := List.not_lex_nil

theorem nil_precedes_cons (k : String) (p : List String) : Precedes [] (k :: p) := List.Lex.nil

theorem precedes_cons {k l : String} {p q : List String} :
    Precedes (k :: p) (l :: q) ↔ k < l ∨ k = l ∧ Precedes p q := List.cons_lex_cons_iff

/-! ### Conflicts -/

/-- Both values hold something at the path, and not both an object. -/
def ConflictAt (v w : Value) (p : List String) : Prop :=
  ∃ x y, v.face? p = some x ∧ w.face? p = some y ∧ ¬ (x = .object ∧ y = .object)

/-- There is a conflict at the path, and none at a path before it. -/
structure FirstConflict (v w : Value) (p : List String) : Prop where
  conflict : ConflictAt v w p
  least : ∀ q, ConflictAt v w q → ¬ Precedes q p

theorem compatible_iff_no_conflict {v w : Value} : Compatible v w ↔ ∀ p, ¬ ConflictAt v w p := by
  constructor
  · rintro h p ⟨x, y, hx, hy, hne⟩
    exact hne (h p x y hx hy)
  · intro h p x y hx hy
    exact Classical.byContradiction fun hne => h p ⟨x, y, hx, hy, hne⟩

theorem conflictAt_nil {v w : Value} :
    ConflictAt v w [] ↔ ¬ (v.face = .object ∧ w.face = .object) := by
  simp [ConflictAt]

theorem conflictAt_cons {data new : List (String × Value)} {k : String} {p : List String} :
    ConflictAt (.object data) (.object new) (k :: p) ↔
      ∃ a b, Dictionary.find? k data = some a ∧ Dictionary.find? k new = some b ∧
        ConflictAt a b p := by
  constructor
  · rintro ⟨x, y, hx, hy, hne⟩
    rw [Value.face?_object_cons] at hx hy
    obtain ⟨a, ha, hx⟩ := Option.bind_eq_some_iff.mp hx
    obtain ⟨b, hb, hy⟩ := Option.bind_eq_some_iff.mp hy
    exact ⟨a, b, ha, hb, x, y, hx, hy, hne⟩
  · rintro ⟨a, b, ha, hb, x, y, hx, hy, hne⟩
    exact ⟨x, y, by simpa [ha] using hx, by simpa [hb] using hy, hne⟩

/-! ### Entries -/

/-- A merge that stops has merged the entries before the one at which it stops. -/
theorem exists_split_of_conflict {data new : Dictionary Value} {place : List String}
    (h : (mergeEntries data new).2 = some place) :
    ∃ before k b later a keys, new = before ++ (k, b) :: later ∧
      (mergeEntries data before).2 = none ∧
      Dictionary.find? k (mergeEntries data before).1 = some a ∧
      (mergeValue a b).2 = some keys ∧ place = k :: keys ∧
      (mergeEntries data new).1
        = Dictionary.insert k (mergeValue a b).1 (mergeEntries data before).1 := by
  induction new generalizing data with
  | nil => simp [mergeEntries] at h
  | cons e r ih =>
    obtain ⟨k, b⟩ := e
    by_cases hk : ∀ a, Dictionary.find? k data = some a → (mergeValue a b).2 = none
    · obtain ⟨y, hy⟩ := exists_joined (Dictionary.find? k data) b
      rw [mergeEntries_cons hk hy] at h
      obtain ⟨before, l, c, later, a, keys, rfl, hnone, hfind, hkeys, hplace, hleft⟩ := ih h
      refine ⟨(k, b) :: before, l, c, later, a, keys, rfl, ?_, ?_, hkeys, hplace, ?_⟩
      · rw [mergeEntries_cons hk hy]
        exact hnone
      · rw [mergeEntries_cons hk hy]
        exact hfind
      · rw [mergeEntries_cons hk hy, mergeEntries_cons hk hy]
        exact hleft
    · obtain ⟨a, ha⟩ := Classical.not_forall.mp hk
      obtain ⟨ha, hconflict⟩ := Classical.not_imp.mp ha
      obtain ⟨keys, hkeys⟩ := Option.ne_none_iff_exists'.mp hconflict
      have hpair : mergeValue a b = ((mergeValue a b).1, some keys) := Prod.ext rfl hkeys
      have hstop : mergeEntries data ((k, b) :: r)
          = (Dictionary.insert k (mergeValue a b).1 data, some (k :: keys)) := by
        rw [mergeEntries, ha]
        simp only
        rw [hpair]
      rw [hstop] at h ⊢
      cases h
      exact ⟨[], k, b, r, a, keys, rfl, rfl, ha, hkeys, rfl, rfl⟩

/-- What is found after a merge that stops at an entry: before its key what both sides held joined,
at its key what became of its value, and after its key what the data held. -/
theorem find?_of_conflict {data new : Dictionary Value} (hn : Dictionary.Sorted new)
    {place : List String} (h : (mergeEntries data new).2 = some place) :
    ∃ k a b keys, place = k :: keys ∧ Dictionary.find? k data = some a ∧
      Dictionary.find? k new = some b ∧ (mergeValue a b).2 = some keys ∧
      Dictionary.find? k (mergeEntries data new).1 = some (mergeValue a b).1 ∧
      (∀ l, l < k →
        Dictionary.find? l (mergeEntries data new).1
          = joined (Dictionary.find? l data) (Dictionary.find? l new) ∧
        ∀ x y, Dictionary.find? l data = some x → Dictionary.find? l new = some y →
          (mergeValue x y).2 = none) ∧
      ∀ l, k < l → Dictionary.find? l (mergeEntries data new).1 = Dictionary.find? l data := by
  obtain ⟨before, k, b, later, a, keys, rfl, hnone, hfind, hkeys, rfl, hleft⟩ :=
    exists_split_of_conflict h
  obtain ⟨hbefore, hrest, hcross⟩ := List.pairwise_append.mp hn
  have hlater := (Dictionary.sorted_cons.mp hrest).1
  have hmerged := find?_mergeEntries hbefore hnone
  -- no key of the entries before is at or after the key of the stop
  have habsent : ∀ l, ¬ l < k → Dictionary.find? l before = none := by
    intro l hl
    refine Dictionary.find?_eq_none fun e he hel => hl ?_
    exact hel ▸ hcross e he (k, b) (List.mem_cons_self ..)
  have hsame : ∀ l, l < k →
      Dictionary.find? l (before ++ (k, b) :: later) = Dictionary.find? l before := by
    intro l hl
    have hnot : Dictionary.find? l ((k, b) :: later) = none := by
      refine Dictionary.find?_eq_none fun e he hel => ?_
      rcases List.mem_cons.mp he with rfl | he
      · exact Dictionary.ne_of_lt hl hel.symm
      · exact String.lt_asymm hl (hel ▸ hlater e he)
    rw [Dictionary.find?_append, hnot, Option.or_none]
  have hk := habsent k (String.lt_irrefl k)
  have ha : Dictionary.find? k data = some a := by
    rw [hmerged, hk] at hfind
    rw [← hfind]
    cases Dictionary.find? k data <;> rfl
  have hb : Dictionary.find? k (before ++ (k, b) :: later) = some b := by
    rw [Dictionary.find?_append, hk, Option.none_or, Dictionary.find?_cons_self]
  refine ⟨k, a, b, keys, rfl, ha, hb, hkeys, ?_, ?_, ?_⟩
  · rw [hleft, Dictionary.find?_insert_self]
  · intro l hl
    rw [hleft, Dictionary.find?_insert_of_ne (Dictionary.ne_of_lt hl).symm, hmerged, hsame l hl]
    exact ⟨rfl, (mergeEntries_eq_none_iff hbefore).mp hnone l⟩
  · intro l hl
    rw [hleft, Dictionary.find?_insert_of_ne (Dictionary.ne_of_lt hl), hmerged,
      habsent l (String.lt_asymm hl)]
    cases Dictionary.find? l data <;> rfl

/-! ### Values -/

/-- Where one of two values is no object, nothing is merged. -/
theorem mergeValue_of_conflict {old new : Value}
    (h : ¬ (old.face = .object ∧ new.face = .object)) : mergeValue old new = (old, some []) := by
  by_cases hnew : new.face = .object
  · obtain ⟨entries, rfl⟩ := Value.face_eq_object.mp hnew
    cases old with
    | object data => exact absurd ⟨rfl, rfl⟩ h
    | _ =>
      rw [mergeValue]
      rintro _ ⟨⟩
  · exact mergeValue_leaf hnew old

theorem face?_joined {a? b? : Option Value} (hb : ∀ b, b? = some b → b.WellFormed)
    (h : ∀ a b, a? = some a → b? = some b → (mergeValue a b).2 = none) (q : List String) :
    ((joined a? b?).bind fun x => x.face? q)
      = (a?.bind fun x => x.face? q).or (b?.bind fun x => x.face? q) := by
  cases a? with
  | none => cases b? <;> rfl
  | some a =>
    cases b? with
    | none => simp [joined]
    | some b =>
      obtain ⟨hnone, hface⟩ := mergeValue_spec (hb b rfl) a
      exact hface (hnone.mp (h a b rfl rfl)) q

/-- What is left of the old and the new value where a merge stops at a path. -/
structure StopsAt (old new left : Value) (place : List String) : Prop where
  first : FirstConflict old new place
  before : ∀ q, Precedes q place → left.face? q = (old.face? q).or (new.face? q)
  other : ∀ q, ¬ Precedes q place → left.face? q = old.face? q

theorem stopsAt_root {old new : Value} (h : ¬ (old.face = .object ∧ new.face = .object)) :
    StopsAt old new old [] where
  first := ⟨conflictAt_nil.mpr h, fun q _ => not_precedes_nil q⟩
  before q hq := absurd hq (not_precedes_nil q)
  other _ _ := rfl

/-- Objects stop at the path of their values under the key of the stop. -/
theorem stopsAt_object {data new : Dictionary Value} (hn : (Value.object new).WellFormed)
    {place : List String} (h : (mergeEntries data new).2 = some place)
    (hvalues : ∀ e ∈ new, ∀ a keys, (mergeValue a e.2).2 = some keys →
      StopsAt a e.2 (mergeValue a e.2).1 keys) :
    StopsAt (.object data) (.object new) (.object (mergeEntries data new).1) place := by
  obtain ⟨hsorted, hentries⟩ := Value.each_object.mp hn
  obtain ⟨k, a, b, keys, rfl, ha, hb, hkeys, hat, hbefore, hafter⟩ := find?_of_conflict hsorted h
  have hstop := hvalues (k, b) (Dictionary.mem_of_find? hb) a keys hkeys
  have hwell : ∀ l y, Dictionary.find? l new = some y → y.WellFormed :=
    fun l y hy => hentries _ (Dictionary.mem_of_find? hy)
  refine ⟨⟨conflictAt_cons.mpr ⟨a, b, ha, hb, hstop.first.conflict⟩, ?_⟩, ?_, ?_⟩
  · intro q hq hlt
    cases q with
    | nil => exact conflictAt_nil.mp hq ⟨rfl, rfl⟩
    | cons l q =>
      obtain ⟨x, y, hx, hy, hxy⟩ := conflictAt_cons.mp hq
      rcases precedes_cons.mp hlt with hl | ⟨hl, hrest⟩
      · have hcompatible := (mergeValue_spec (hwell l y hy) x).1.mp ((hbefore l hl).2 x y hx hy)
        exact compatible_iff_no_conflict.mp hcompatible q hxy
      · rw [hl, ha] at hx
        rw [hl, hb] at hy
        cases hx
        cases hy
        exact hstop.first.least q hxy hrest
  · intro q hlt
    cases q with
    | nil => simp
    | cons l q =>
      rw [Value.face?_object_cons, Value.face?_object_cons, Value.face?_object_cons]
      rcases precedes_cons.mp hlt with hl | ⟨hl, hrest⟩
      · obtain ⟨hjoined, hnone⟩ := hbefore l hl
        rw [hjoined]
        exact face?_joined (hwell l) hnone q
      · rw [hl, hat, ha, hb]
        exact hstop.before q hrest
  · intro q hnot
    cases q with
    | nil => exact absurd (nil_precedes_cons k keys) hnot
    | cons l q =>
      rw [precedes_cons, not_or] at hnot
      rw [Value.face?_object_cons, Value.face?_object_cons]
      by_cases hl : l = k
      · rw [hl, hat, ha]
        exact hstop.other q fun hlt => hnot.2 ⟨hl, hlt⟩
      · have hkl : k < l := Classical.byContradiction fun hlk =>
          hl (String.le_antisymm (String.not_lt.mp hlk) (String.not_lt.mp hnot.1))
        rw [hafter l hkl]

/-- A merge that does not go through stops at the first conflict. -/
theorem stopsAt_of_conflict {new : Value} (hn : new.WellFormed) {old : Value} {place : List String}
    (h : (mergeValue old new).2 = some place) : StopsAt old new (mergeValue old new).1 place := by
  induction new generalizing old place with
  | object entries ih =>
    by_cases hold : old.face = .object
    · obtain ⟨data, rfl⟩ := Value.face_eq_object.mp hold
      have hentries := (Value.each_object.mp hn).2
      rw [mergeValue_object] at h ⊢
      exact stopsAt_object hn h fun e he a keys hkeys => ih e he (hentries e he) hkeys
    · rw [mergeValue_of_conflict fun hboth => hold hboth.1] at h ⊢
      cases h
      exact stopsAt_root fun hboth => hold hboth.1
  | _ =>
    rw [mergeValue_leaf (by simp [Value.face])] at h ⊢
    cases h
    exact stopsAt_root (by simp [Value.face])

/-! ### Source sets -/

namespace SourceSet

/-- A document that is an object under its keys is merged entry by entry. -/
theorem mergeData_object (s : SourceSet) {keys : List String} {doc : Value} (origin : Path)
    {entries : List (String × Value)} (h : nestUnder keys doc = .object entries) :
    s.mergeData keys doc origin = ({ s with data := (mergeEntries s.data entries).1 },
      match (mergeEntries s.data entries).2 with
      | none => .ok ()
      | some place => .error (.load (.conflict origin place))) := by
  rw [mergeData, h]
  cases hmerge : mergeEntries s.data entries with
  | mk data conflict => cases conflict <;> simp [hmerge]

theorem mergeData_leaf (s : SourceSet) {keys : List String} {doc : Value} (origin : Path)
    (h : (nestUnder keys doc).face ≠ .object) :
    s.mergeData keys doc origin = (s, .error (.load (.rootNotObject origin))) := by
  unfold mergeData
  split
  · next hnest =>
    rw [hnest] at h
    exact absurd rfl h
  · rfl

/-- A document that is an object under its keys is merged without a conflict, or as far as the first
conflict, which is reported. -/
theorem mergeData_cases (s : SourceSet) (keys : List String) {doc : Value} (hd : doc.WellFormed)
    (origin : Path) (h : (nestUnder keys doc).face = .object) :
    (∃ data, s.mergeData keys doc origin = ({ s with data := data }, .ok ()) ∧
      Compatible (.object s.data) (nestUnder keys doc) ∧
      ∀ p, (Value.object data).face? p
        = ((Value.object s.data).face? p).or ((nestUnder keys doc).face? p)) ∨
    ∃ data place, s.mergeData keys doc origin
        = ({ s with data := data }, .error (.load (.conflict origin place))) ∧
      StopsAt (.object s.data) (nestUnder keys doc) (.object data) place := by
  have hw := wellFormed_nestUnder hd keys
  obtain ⟨entries, hnest⟩ := Value.face_eq_object.mp h
  have hmerge := s.mergeData_object origin hnest
  rw [hnest] at hw ⊢
  obtain ⟨hnone, hface⟩ := mergeValue_spec hw (.object s.data)
  rw [mergeValue_object] at hnone hface
  cases hconflict : (mergeEntries s.data entries).2 with
  | none =>
    rw [hconflict] at hmerge
    have hc := hnone.mp hconflict
    exact .inl ⟨_, hmerge, hc, hface hc⟩
  | some place =>
    rw [hconflict] at hmerge
    refine .inr ⟨_, place, hmerge, ?_⟩
    have hstop := @stopsAt_of_conflict _ hw (.object s.data) place
    rw [mergeValue_object] at hstop
    exact hstop hconflict

/-- What a merge does, seen along key paths:

* it succeeds exactly when the document is an object under its keys and there is no conflict, and
  then each path holds what the data or the document hold there;
* with a conflict it reports the first in the order of key paths; each path before that one holds
  what the data or the document hold there, and every other path what the data held;
* a document that is no object leaves the set as it is;
* in no case does a path lose what it held, or do modules and bundles change. -/
theorem mergeData_along_paths (s : SourceSet) (keys : List String) {doc : Value}
    (hd : doc.WellFormed) (origin : Path) :
    let old := Value.object s.data
    let new := nestUnder keys doc
    let (left, outcome) := s.mergeData keys doc origin
    (outcome = .ok () ↔ new.face = .object ∧ ∀ p, ¬ ConflictAt old new p) ∧
    (outcome = .ok () →
      ∀ p, (Value.object left.data).face? p = (old.face? p).or (new.face? p)) ∧
    (new.face = .object → (∃ p, ConflictAt old new p) → ∃ place,
      FirstConflict old new place ∧ outcome = .error (.load (.conflict origin place)) ∧
      (LoadCause.conflict origin place).message
        = origin.text ++ ": merge error: conflicting value at data." ++ ".".intercalate place ∧
      (∀ p, Precedes p place →
        (Value.object left.data).face? p = (old.face? p).or (new.face? p)) ∧
      ∀ p, ¬ Precedes p place → (Value.object left.data).face? p = old.face? p) ∧
    (new.face ≠ .object → left = s ∧ outcome = .error (.load (.rootNotObject origin))) ∧
    (∀ p x, old.face? p = some x → (Value.object left.data).face? p = some x) ∧
    left.modules = s.modules ∧ left.bundles = s.bundles := by
  by_cases hobject : (nestUnder keys doc).face = .object
  · rcases s.mergeData_cases keys hd origin hobject with
      ⟨data, hmerge, hc, hface⟩ | ⟨data, place, hmerge, hstop⟩
    · rw [hmerge]
      have hno := compatible_iff_no_conflict.mp hc
      refine ⟨⟨fun _ => ⟨hobject, hno⟩, fun _ => rfl⟩, fun _ => hface, ?_,
        fun hleaf => absurd hobject hleaf, ?_, rfl, rfl⟩
      · rintro - ⟨p, hp⟩
        exact absurd hp (hno p)
      · intro p x hx
        rw [hface, hx, Option.some_or]
    · rw [hmerge]
      refine ⟨⟨nofun, fun hno => absurd hstop.first.conflict (hno.2 place)⟩, nofun, ?_,
        fun hleaf => absurd hobject hleaf, ?_, rfl, rfl⟩
      · rintro - -
        exact ⟨place, hstop.first, rfl, rfl, hstop.before, hstop.other⟩
      · intro p x hx
        by_cases hp : Precedes p place
        · rw [hstop.before p hp, hx, Option.some_or]
        · rw [hstop.other p hp, hx]
  · rw [s.mergeData_leaf origin hobject]
    refine ⟨⟨nofun, fun hno => absurd hno.1 hobject⟩, nofun, fun h => absurd h hobject,
      fun _ => ⟨rfl, rfl⟩, fun _ _ hx => hx, rfl, rfl⟩

/-- A document that meets a value of the data halfway. -/
def halfwayDocument : Value := .object [("b", .null), ("x", .string "2"), ("z", .object [])]

theorem mergeData_along_paths_halfway :
    halfwayDocument.WellFormed ∧
    FirstConflict (.object [("a", .object [("x", .string "1")])])
      (nestUnder ["a"] halfwayDocument) ["a", "x"] ∧
    (SourceSet.mergeData { data := [("a", .object [("x", .string "1")])] } ["a"] halfwayDocument
        ⟨"d"⟩).1.data = [("a", .object [("b", .null), ("x", .string "1")])] := by
  have hd : halfwayDocument.WellFormed :=
    .object (by decide) (by simp [Dictionary.sorted_nil])
  obtain ⟨-, -, hconflict, -⟩ := mergeData_along_paths
    { data := [("a", .object [("x", .string "1")])] } ["a"] hd ⟨"d"⟩
  obtain ⟨place, hfirst, houtcome, -⟩ := hconflict rfl
    ⟨["a", "x"], .leaf (.string "1"), .leaf (.string "2"), rfl, rfl, by simp⟩
  have hplace : ["a", "x"] = place := by
    injection houtcome with houtcome
    injection houtcome with houtcome
    injection houtcome
  exact ⟨hd, hplace ▸ hfirst, rfl⟩

end SourceSet

end PolicyPack
