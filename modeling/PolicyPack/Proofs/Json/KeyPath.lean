import PolicyPack.Proofs.Json.Values

/-!
# Key paths

A data value is seen along key paths: at each path it holds a value or nothing. Of an object only
that it is one is seen at its own path, for its entries are seen at the paths below. A well-formed
value is determined by what is seen of it, which is how merges are described.
-/

namespace PolicyPack.Json

/-- The value at the end of a key path. -/
def Value.at? : Value → List String → Option Value
  | v, [] => some v
  | .object entries, k :: ks => (Dictionary.find? k entries).bind fun x => x.at? ks
  | _, _ :: _ => none

/-- What is seen of a value at its own path: that it is an object, or else the value. -/
inductive Face where
  /-- An object. -/
  | object
  /-- A value that is no object. -/
  | leaf (v : Value)

/-- What is seen of the value. -/
def Value.face : Value → Face
  | .object _ => .object
  | v => .leaf v

/-- What is seen of a value at the end of a key path. -/
def Value.face? (v : Value) (path : List String) : Option Face := (v.at? path).map Value.face

@[simp] theorem Value.at?_nil (v : Value) : v.at? [] = some v := by cases v <;> rfl

@[simp] theorem Value.at?_object_cons (entries : List (String × Value)) (k : String)
    (ks : List String) :
    (Value.object entries).at? (k :: ks)
      = (Dictionary.find? k entries).bind fun x => x.at? ks := rfl

@[simp] theorem Value.face_object (entries : List (String × Value)) :
    (Value.object entries).face = .object := rfl

@[simp] theorem Value.face?_nil (v : Value) : v.face? [] = some v.face := by simp [face?]

@[simp] theorem Value.face?_object_cons (entries : List (String × Value)) (k : String)
    (ks : List String) :
    (Value.object entries).face? (k :: ks)
      = (Dictionary.find? k entries).bind fun x => x.face? ks := by
  cases h : Dictionary.find? k entries <;> simp [face?, h]

theorem Value.face_eq_object {v : Value} : v.face = .object ↔ ∃ entries, v = .object entries := by
  cases v <;> simp [face]

theorem Value.eq_of_face_eq_leaf {v w : Value} (h : v.face = .leaf w) : v = w := by
  cases v with
  | object entries => cases h
  | _ => exact Face.leaf.inj h

theorem Value.at?_append (v : Value) (p q : List String) :
    v.at? (p ++ q) = (v.at? p).bind fun x => x.at? q := by
  induction p generalizing v with
  | nil => simp
  | cons k p ih =>
    cases v with
    | object entries =>
      rw [List.cons_append, at?_object_cons, at?_object_cons]
      cases Dictionary.find? k entries with
      | none => rfl
      | some x => exact ih x
    | _ => rfl

/-- What is seen of well-formed values determines them. -/
theorem Value.ext_face? {v w : Value} (hv : v.WellFormed) (hw : w.WellFormed)
    (h : ∀ p, v.face? p = w.face? p) : v = w := by
  induction v generalizing w with
  | object entries ih =>
    have hroot : w.face = .object := by simpa using (h []).symm
    obtain ⟨others, rfl⟩ := face_eq_object.mp hroot
    obtain ⟨hes, hev⟩ := each_object.mp hv
    obtain ⟨hos, hov⟩ := each_object.mp hw
    have hfind : ∀ k, Dictionary.find? k entries = Dictionary.find? k others := by
      intro k
      have hk : ∀ ks, ((Dictionary.find? k entries).bind fun x => x.face? ks)
          = (Dictionary.find? k others).bind fun x => x.face? ks := by
        intro ks
        simpa using h (k :: ks)
      cases he : Dictionary.find? k entries with
      | none =>
        cases ho : Dictionary.find? k others with
        | none => rfl
        | some y => simpa [he, ho] using hk []
      | some x =>
        cases ho : Dictionary.find? k others with
        | none => simpa [he, ho] using hk []
        | some y =>
          have hx := Dictionary.mem_of_find? he
          have hy := Dictionary.mem_of_find? ho
          have hxy := ih (k, x) hx (hev _ hx) (hov _ hy) fun ks => by simpa [he, ho] using hk ks
          exact congrArg some hxy
    rw [hes.ext hos hfind]
  | _ =>
    have hroot := h []
    rw [face?_nil, face?_nil] at hroot
    exact (eq_of_face_eq_leaf (Option.some.inj hroot).symm).symm

/-! ### Tips -/

/-- The value is no object, or an object without entries. -/
def Value.IsTip : Value → Prop
  | .object entries => entries = []
  | _ => True

/-- A tip is a value below which nothing is seen. -/
theorem Value.isTip_iff {v : Value} : v.IsTip ↔ ∀ k, v.face? [k] = none := by
  cases v with
  | object entries =>
    rw [IsTip]
    constructor
    · rintro rfl k
      simp
    · intro h
      cases entries with
      | nil => rfl
      | cons e r =>
        obtain ⟨k, x⟩ := e
        have hk := h k
        rw [face?_object_cons, Dictionary.find?_cons_self] at hk
        simp at hk
  | _ => exact ⟨fun _ k => rfl, fun _ => trivial⟩

theorem Value.isTip_iff_of_at? {v w : Value} {p : List String} (h : v.at? p = some w) :
    w.IsTip ↔ ∀ k, v.face? (p ++ [k]) = none := by
  rw [isTip_iff]
  simp only [face?, at?_append, h, Option.bind_some]

/-- A tip is determined by what is seen of it at its own path. -/
theorem Value.eq_of_face_eq {v w : Value} (hv : v.IsTip) (hw : w.IsTip) (h : v.face = w.face) :
    v = w := by
  cases w with
  | object entries =>
    obtain ⟨others, rfl⟩ := face_eq_object.mp h
    rw [IsTip] at hv hw
    rw [hv, hw]
  | _ => exact eq_of_face_eq_leaf h

end PolicyPack.Json
