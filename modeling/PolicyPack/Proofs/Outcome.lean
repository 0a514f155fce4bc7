/-!
# Steps that may fail

How a sequence of steps succeeds: the first fault ends it, and a result of the whole is a result of
each step. Where only success matters, a step is seen as an option.
-/

namespace PolicyPack

universe u

variable {ε α β : Type u}

@[simp] theorem ok_bind (x : α) (f : α → Except ε β) : (Except.ok x >>= f) = f x := pure_bind x f

@[simp] theorem error_bind (e : ε) (f : α → Except ε β) :
    (Except.error e >>= f : Except ε β) = .error e := rfl

@[simp] theorem pure_eq_ok (x : α) : (pure x : Except ε α) = .ok x := rfl

@[simp] theorem throw_eq_error (e : ε) : (throw e : Except ε α) = .error e := rfl

@[simp] theorem map_ok (f : α → β) (x : α) : Except.map f (.ok x : Except ε α) = .ok (f x) := rfl

@[simp] theorem map_error (f : α → β) (e : ε) :
    Except.map f (.error e : Except ε α) = .error e := rfl

/-- Two steps succeed together when each does. -/
theorem bind_eq_ok {x : Except ε α} {f : α → Except ε β} {b : β} :
    (x >>= f) = .ok b ↔ ∃ a, x = .ok a ∧ f a = .ok b := by
  cases x <;> simp

theorem bind_eq_error {x : Except ε α} {f : α → Except ε β} {e : ε} :
    (x >>= f) = .error e ↔ x = .error e ∨ ∃ a, x = .ok a ∧ f a = .error e := by
  cases x <;> simp

theorem bind_fails {x : Except ε α} {f : α → Except ε β}
    (h : ∀ a, x = .ok a → ∃ e, f a = .error e) : ∃ e, (x >>= f) = .error e := by
  cases x with
  | error e => exact ⟨e, rfl⟩
  | ok a => exact h a rfl

theorem map_eq_ok {x : Except ε α} {f : α → β} {b : β} :
    x.map f = .ok b ↔ ∃ a, x = .ok a ∧ f a = b := by
  cases x <;> simp

theorem exists_ok_of_isSome {x : Except ε α} (h : x.toOption.isSome = true) :
    ∃ a, x = .ok a := by
  cases x with
  | error e => cases h
  | ok a => exact ⟨a, rfl⟩

theorem eq_ok_of_toOption {x : Except ε α} {a : α} (h : x.toOption = some a) : x = .ok a := by
  cases x with
  | error e => cases h
  | ok b => exact congrArg Except.ok (Option.some_inj.mp h)

theorem exists_error_of_isNone {x : Except ε α} (h : x.toOption.isNone = true) :
    ∃ e, x = .error e := by
  cases x with
  | error e => exact ⟨e, rfl⟩
  | ok a => cases h

theorem map_map (x : Except ε α) {γ : Type u} (f : α → β) (g : β → γ) :
    (x.map f).map g = x.map fun a => g (f a) := by
  cases x <;> rfl

/-! ### Lists of steps -/

theorem map_of_mapM_eq_ok {f : α → Except ε β} {l : List α} {r : List β} (h : l.mapM f = .ok r) :
    l.map f = r.map .ok := by
  induction l generalizing r with
  | nil =>
    rw [List.mapM_nil, pure_eq_ok] at h
    cases h
    rfl
  | cons x l ih =>
    rw [List.mapM_cons] at h
    obtain ⟨y, hy, h⟩ := bind_eq_ok.mp h
    obtain ⟨ys, hys, h⟩ := bind_eq_ok.mp h
    cases h
    rw [List.map_cons, List.map_cons, hy, ih hys]

theorem getElem?_of_mapM_eq_ok {f : α → Except ε β} {l : List α} {r : List β}
    (h : l.mapM f = .ok r) (i : Nat) : l[i]?.map f = r[i]?.map Except.ok := by
  have hi := congrArg (fun l : List (Except ε β) => l[i]?) (map_of_mapM_eq_ok h)
  rwa [List.getElem?_map, List.getElem?_map] at hi

theorem head?_of_mapM_eq_ok {f : α → Except ε β} {l : List α} {r : List β} (h : l.mapM f = .ok r) :
    l.head?.map f = r.head?.map .ok := by
  rw [← List.head?_map, ← List.head?_map, map_of_mapM_eq_ok h]

theorem exists_of_mapM_eq_ok {f : α → Except ε β} {l : List α} {r : List β} (h : l.mapM f = .ok r)
    {x : α} (hx : x ∈ l) : ∃ y ∈ r, f x = .ok y := by
  have hmem : f x ∈ r.map .ok := map_of_mapM_eq_ok h ▸ List.mem_map_of_mem hx
  obtain ⟨y, hy, hxy⟩ := List.mem_map.mp hmem
  exact ⟨y, hy, hxy.symm⟩

theorem exists_of_mem_mapM {f : α → Except ε β} {l : List α} {r : List β} (h : l.mapM f = .ok r)
    {y : β} (hy : y ∈ r) : ∃ x ∈ l, f x = .ok y := by
  have hmem : (.ok y : Except ε β) ∈ l.map f := map_of_mapM_eq_ok h ▸ List.mem_map_of_mem hy
  exact List.mem_map.mp hmem

theorem mapM_eq_ok_map {f : α → Except ε β} {g : α → β} {l : List α}
    (h : ∀ x ∈ l, f x = .ok (g x)) : l.mapM f = .ok (l.map g) := by
  induction l with
  | nil => rfl
  | cons x l ih =>
    rw [List.mapM_cons, h x (by simp), ih fun y hy => h y (by simp [hy])]
    rfl

theorem mapM_ok (l : List α) : l.mapM (Except.ok : α → Except ε α) = .ok l := by
  rw [mapM_eq_ok_map (f := Except.ok) (g := id) fun _ _ => rfl, List.map_id]

theorem exists_mapM_eq_ok {f : α → Except ε β} {l : List α} (h : ∀ x ∈ l, ∃ y, f x = .ok y) :
    ∃ r, l.mapM f = .ok r := by
  induction l with
  | nil => exact ⟨[], rfl⟩
  | cons x l ih =>
    obtain ⟨y, hy⟩ := h x (by simp)
    obtain ⟨r, hr⟩ := ih fun z hz => h z (by simp [hz])
    exact ⟨y :: r, by rw [List.mapM_cons, hy, hr]; rfl⟩

/-- Steps that do what others do, where those succeed, succeed with them. -/
theorem mapM_eq_ok_of_imp {f g : α → Except ε β} {l : List α} {r : List β}
    (h : ∀ x ∈ l, ∀ y, f x = .ok y → g x = .ok y) (hr : l.mapM f = .ok r) : l.mapM g = .ok r := by
  induction l generalizing r with
  | nil => exact hr
  | cons x l ih =>
    rw [List.mapM_cons] at hr ⊢
    obtain ⟨y, hy, hr⟩ := bind_eq_ok.mp hr
    obtain ⟨ys, hys, hr⟩ := bind_eq_ok.mp hr
    rw [h x (by simp) y hy, ok_bind, ih (fun z hz => h z (by simp [hz])) hys]
    exact hr

/-- Where only one fault is possible, one step with it decides. -/
theorem mapM_eq_error {f : α → Except ε β} {l : List α} {e : ε}
    (h : ∀ x ∈ l, (∃ y, f x = .ok y) ∨ f x = .error e) (he : ∃ x ∈ l, f x = .error e) :
    l.mapM f = .error e := by
  induction l with
  | nil => simp at he
  | cons x l ih =>
    rw [List.mapM_cons]
    rcases h x (by simp) with ⟨y, hy⟩ | hx
    · have hrest : l.mapM f = .error e := by
        refine ih (fun z hz => h z (by simp [hz])) ?_
        obtain ⟨z, hz, hze⟩ := he
        rcases List.mem_cons.mp hz with rfl | hz
        · rw [hy] at hze
          cases hze
        · exact ⟨z, hz, hze⟩
      rw [hy, hrest]
      rfl
    · rw [hx]
      rfl

/-- Steps on a list fail as one of them does. -/
theorem exists_of_mapM_eq_error {f : α → Except ε β} {l : List α} {e : ε}
    (h : l.mapM f = .error e) : ∃ x ∈ l, f x = .error e := by
  induction l with
  | nil => cases h
  | cons x l ih =>
    rw [List.mapM_cons] at h
    rcases bind_eq_error.mp h with hx | ⟨y, -, h⟩
    · exact ⟨x, List.mem_cons_self .., hx⟩
    · rcases bind_eq_error.mp h with hl | ⟨ys, -, h⟩
      · obtain ⟨z, hz, hze⟩ := ih hl
        exact ⟨z, List.mem_cons_of_mem _ hz, hze⟩
      · cases h

theorem mapM_fails {f : α → Except ε β} {l : List α} :
    (∃ e, l.mapM f = .error e) ↔ ∃ x ∈ l, ∃ e, f x = .error e := by
  constructor
  · rintro ⟨e, h⟩
    obtain ⟨x, hx, hxe⟩ := exists_of_mapM_eq_error h
    exact ⟨x, hx, e, hxe⟩
  · rintro ⟨x, hx, e, hxe⟩
    cases hr : l.mapM f with
    | error e => exact ⟨e, rfl⟩
    | ok r =>
      obtain ⟨y, -, hy⟩ := exists_of_mapM_eq_ok hr hx
      rw [hxe] at hy
      cases hy

/-- Steps on a list that succeed do so in any order of the list. -/
theorem mapM_perm {f : α → Except ε β} {l l' : List α} (h : l.Perm l') {r : List β}
    (hr : l.mapM f = .ok r) : ∃ r', l'.mapM f = .ok r' ∧ r.Perm r' := by
  induction h generalizing r with
  | nil => exact ⟨r, hr, .refl r⟩
  | @cons x l l' _ ih =>
    rw [List.mapM_cons] at hr
    obtain ⟨y, hy, hr⟩ := bind_eq_ok.mp hr
    obtain ⟨ys, hys, hr⟩ := bind_eq_ok.mp hr
    cases hr
    obtain ⟨ys', hys', hperm⟩ := ih hys
    exact ⟨y :: ys', by rw [List.mapM_cons, hy, hys']; rfl, hperm.cons y⟩
  | @swap a b l =>
    rw [List.mapM_cons] at hr
    obtain ⟨y, hy, hr⟩ := bind_eq_ok.mp hr
    obtain ⟨ys, hys, hr⟩ := bind_eq_ok.mp hr
    cases hr
    rw [List.mapM_cons] at hys
    obtain ⟨z, hz, hys⟩ := bind_eq_ok.mp hys
    obtain ⟨zs, hzs, hys⟩ := bind_eq_ok.mp hys
    cases hys
    refine ⟨z :: y :: zs, ?_, .swap z y zs⟩
    rw [List.mapM_cons, hz, List.mapM_cons, hy, hzs]
    rfl
  | trans _ _ ih₁ ih₂ =>
    obtain ⟨r₁, hr₁, h₁⟩ := ih₁ hr
    obtain ⟨r₂, hr₂, h₂⟩ := ih₂ hr₁
    exact ⟨r₂, hr₂, h₁.trans h₂⟩

theorem mapM_sublist {f : α → Except ε β} {l l' : List α} (h : l'.Sublist l) {r : List β}
    (hr : l.mapM f = .ok r) : ∃ r', l'.mapM f = .ok r' ∧ r'.Sublist r := by
  induction h generalizing r with
  | slnil => exact ⟨r, hr, .refl r⟩
  | @cons l' l x _ ih =>
    rw [List.mapM_cons] at hr
    obtain ⟨y, hy, hr⟩ := bind_eq_ok.mp hr
    obtain ⟨ys, hys, hr⟩ := bind_eq_ok.mp hr
    cases hr
    obtain ⟨r', hr', hsub⟩ := ih hys
    exact ⟨r', hr', hsub.cons y⟩
  | @cons_cons l' l x _ ih =>
    rw [List.mapM_cons] at hr
    obtain ⟨y, hy, hr⟩ := bind_eq_ok.mp hr
    obtain ⟨ys, hys, hr⟩ := bind_eq_ok.mp hr
    cases hr
    obtain ⟨r', hr', hsub⟩ := ih hys
    exact ⟨y :: r', by rw [List.mapM_cons, hy, hr']; rfl, hsub.cons_cons y⟩

/-- Steps that give some of what others give, give together some of what the others give. -/
theorem mapM_flatten_sublist {f g : α → Except ε (List β)}
    (h : ∀ x ys, f x = .ok ys → ∃ ys', g x = .ok ys' ∧ ys'.Sublist ys) {l : List α}
    {r : List (List β)} (hr : l.mapM f = .ok r) :
    ∃ r', l.mapM g = .ok r' ∧ r'.flatten.Sublist r.flatten := by
  induction l generalizing r with
  | nil => exact ⟨r, hr, .refl _⟩
  | cons x l ih =>
    rw [List.mapM_cons] at hr
    obtain ⟨ys, hys, hr⟩ := bind_eq_ok.mp hr
    obtain ⟨yss, hyss, hr⟩ := bind_eq_ok.mp hr
    cases hr
    obtain ⟨ys', hys', hfirst⟩ := h x ys hys
    obtain ⟨r', hr', hrest⟩ := ih hyss
    refine ⟨ys' :: r', by rw [List.mapM_cons, hys', hr']; rfl, ?_⟩
    rw [List.flatten_cons, List.flatten_cons]
    exact hfirst.append hrest

/-- A fold whose steps first read and then add is reading all and then adding all. -/
theorem foldlM_read {σ : Type u} (step : σ → α → Except ε σ) (read : α → Except ε (List β))
    (add : σ → β → Except ε σ)
    (h : ∀ s x t, step s x = .ok t ↔ ∃ ys, read x = .ok ys ∧ ys.foldlM add s = .ok t)
    (l : List α) (s t : σ) :
    l.foldlM step s = .ok t ↔ ∃ r, l.mapM read = .ok r ∧ r.flatten.foldlM add s = .ok t := by
  induction l generalizing s with
  | nil =>
    constructor
    · intro hs
      exact ⟨[], rfl, hs⟩
    · rintro ⟨r, hr, hs⟩
      cases hr
      exact hs
  | cons x l ih =>
    rw [List.foldlM_cons]
    constructor
    · intro hs
      obtain ⟨u, hu, hs⟩ := bind_eq_ok.mp hs
      obtain ⟨ys, hys, hadd⟩ := (h s x u).mp hu
      obtain ⟨r, hr, hs⟩ := (ih u).mp hs
      refine ⟨ys :: r, by rw [List.mapM_cons, hys, hr]; rfl, ?_⟩
      rw [List.flatten_cons, List.foldlM_append, hadd]
      exact hs
    · rintro ⟨r, hr, hs⟩
      rw [List.mapM_cons] at hr
      obtain ⟨ys, hys, hr⟩ := bind_eq_ok.mp hr
      obtain ⟨yss, hyss, hr⟩ := bind_eq_ok.mp hr
      cases hr
      rw [List.flatten_cons, List.foldlM_append] at hs
      obtain ⟨u, hu, hs⟩ := bind_eq_ok.mp hs
      exact bind_eq_ok.mpr ⟨u, (h s x u).mpr ⟨ys, hys, hu⟩, (ih u).mpr ⟨yss, hyss, hs⟩⟩

/-- A fold passes over what leaves every state as it is. -/
theorem foldlM_filter {σ : Type u} {step : σ → α → Except ε σ} {p : α → Bool} {l : List α}
    (h : ∀ x ∈ l, p x = false → ∀ s, step s x = .ok s) (s : σ) :
    (l.filter p).foldlM step s = l.foldlM step s := by
  induction l generalizing s with
  | nil => rfl
  | cons x l ih =>
    have hrest := ih fun y hy => h y (List.mem_cons_of_mem _ hy)
    rw [List.foldlM_cons]
    cases hp : p x with
    | true =>
      rw [List.filter_cons_of_pos hp, List.foldlM_cons]
      exact bind_congr hrest
    | false =>
      rw [List.filter_cons_of_neg (by simp [hp]), h x (List.mem_cons_self ..) hp, ok_bind, hrest]

/-- Folds whose steps agree on the members of a list agree. -/
theorem foldlM_congr {σ : Type u} {step step' : σ → α → Except ε σ} {l : List α}
    (h : ∀ x ∈ l, ∀ s, step s x = step' s x) (s : σ) : l.foldlM step s = l.foldlM step' s := by
  induction l generalizing s with
  | nil => rfl
  | cons x l ih =>
    rw [List.foldlM_cons, List.foldlM_cons, h x (List.mem_cons_self ..)]
    exact bind_congr (ih fun y hy => h y (List.mem_cons_of_mem _ hy))

/-- A fold fails with a member that every state fails on. -/
theorem foldlM_fails {σ : Type u} {step : σ → α → Except ε σ} {l : List α} {x : α} (hx : x ∈ l)
    (hfails : ∀ s, ∃ e, step s x = .error e) (s : σ) : ∃ e, l.foldlM step s = .error e := by
  induction l generalizing s with
  | nil => cases hx
  | cons y l ih =>
    rw [List.foldlM_cons]
    cases hy : step s y with
    | error e => exact ⟨e, rfl⟩
    | ok t =>
      rcases List.mem_cons.mp hx with rfl | hx
      · obtain ⟨e, he⟩ := hfails s
        rw [he] at hy
        cases hy
      · exact ih hx t

/-- A fold does not fail with what no step fails with, under an invariant of what is left of the
list and of the state. -/
theorem foldlM_ne_error {σ : Type u} {step : σ → α → Except ε σ} {e : ε}
    (I : List α → σ → Prop) (hok : ∀ x l s t, I (x :: l) s → step s x = .ok t → I l t)
    (herror : ∀ x l s, I (x :: l) s → step s x ≠ .error e) {l : List α} {s : σ} (hs : I l s) :
    l.foldlM step s ≠ .error e := by
  induction l generalizing s with
  | nil => nofun
  | cons x l ih =>
    intro h
    rw [List.foldlM_cons] at h
    rcases bind_eq_error.mp h with hx | ⟨t, ht, h⟩
    · exact herror x l s hs hx
    · exact ih (hok x l s t hs ht) h

/-! ### Steps seen as options -/

theorem option_mapM_eq_some {f : α → Option β} {l : List α} {r : List β} :
    l.mapM f = some r ↔ l.map f = r.map some := by
  induction l generalizing r with
  | nil =>
    rw [List.mapM_nil, List.map_nil]
    constructor
    · intro h
      cases h
      rfl
    · intro h
      rw [List.map_eq_nil_iff.mp h.symm]
      rfl
  | cons x l ih =>
    rw [List.mapM_cons, List.map_cons, Option.bind_eq_bind, Option.bind_eq_some_iff]
    constructor
    · rintro ⟨y, hy, h⟩
      obtain ⟨ys, hys, h⟩ := Option.bind_eq_some_iff.mp h
      cases h
      rw [List.map_cons, hy, ih.mp hys]
    · intro h
      cases r with
      | nil => cases h
      | cons y ys =>
        rw [List.map_cons, List.cons.injEq] at h
        exact ⟨y, h.1, Option.bind_eq_some_iff.mpr ⟨ys, ih.mpr h.2, rfl⟩⟩

theorem head?_of_option_mapM {f : α → Option β} {l : List α} {r : List β}
    (h : l.mapM f = some r) : l.head?.map f = r.head?.map some := by
  rw [← List.head?_map, ← List.head?_map, option_mapM_eq_some.mp h]

/-- Steps give nothing together when one of them gives nothing. -/
theorem option_mapM_eq_none {f : α → Option β} {l : List α} :
    l.mapM f = none ↔ ∃ x ∈ l, f x = none := by
  induction l with
  | nil => simp
  | cons x l ih =>
    simp only [List.mapM_cons, List.mem_cons, exists_eq_or_imp, ← ih]
    cases f x with
    | none => simp
    | some y => cases l.mapM f <;> simp

theorem exists_of_mem_option_mapM {f : α → Option β} {l : List α} {r : List β}
    (h : l.mapM f = some r) {y : β} (hy : y ∈ r) : ∃ x ∈ l, f x = some y := by
  have hmem : some y ∈ l.map f := option_mapM_eq_some.mp h ▸ List.mem_map_of_mem hy
  exact List.mem_map.mp hmem

end PolicyPack
