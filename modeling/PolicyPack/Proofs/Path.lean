import PolicyPack.Path

/-!
# Paths and their parts

A path is split at its slashes. Splitting takes a text that goes on after a slash apart into the
parts before and after it, and whether the parts of one text are the first parts of another is
whether the other goes on after it with a slash. The extension of a name stands after its last
point.
-/

namespace PolicyPack.Path

/-! ### Parts -/

theorem exists_split (l : List Char) : ∃ p ps, split l = p :: ps := by
  cases l with
  | nil => exact ⟨[], [], rfl⟩
  | cons c l =>
    rw [split]
    split
    · exact ⟨_, _, rfl⟩
    · split <;> exact ⟨_, _, rfl⟩

theorem split_slash (l : List Char) : split ('/' :: l) = [] :: split l := by simp [split]

theorem split_cons {c : Char} (hc : c ≠ '/') {l p : List Char} {ps : List (List Char)}
    (h : split l = p :: ps) : split (c :: l) = (c :: p) :: ps := by
  rw [split, if_neg hc, h]

/-- A text without a slash is one segment. -/
theorem split_of_not_mem {l : List Char} (h : '/' ∉ l) : split l = [l] := by
  induction l with
  | nil => rfl
  | cons c l ih =>
    obtain ⟨hc, hl⟩ : '/' ≠ c ∧ '/' ∉ l := by simpa using h
    exact split_cons hc.symm (ih hl)

theorem split_eq_splitOn (l : List Char) : split l = l.splitOn '/' := by
  induction l with
  | nil => simp [split]
  | cons c l ih =>
    obtain ⟨p, ps, hp⟩ := exists_split l
    rw [List.splitOn_eq_splitOnP] at ih ⊢
    rw [List.splitOnP_cons_eq_if_modifyHead, ← ih, hp]
    by_cases hc : c = '/'
    · subst hc
      rw [split_slash, hp, if_pos (beq_self_eq_true _)]
    · rw [split_cons hc hp, if_neg (by simpa using hc), List.modifyHead_cons]

theorem no_slash_of_mem_split {l part : List Char} (h : part ∈ split l) : '/' ∉ part := by
  induction l generalizing part with
  | nil => simp_all [split]
  | cons c l ih =>
    by_cases hc : c = '/'
    · subst hc
      rw [split_slash] at h
      rcases List.mem_cons.mp h with rfl | h
      · simp
      · exact ih h
    · obtain ⟨first, parts, hl⟩ := exists_split l
      rw [split_cons hc hl] at h
      rcases List.mem_cons.mp h with rfl | h
      · simp [Ne.symm hc, ih (hl ▸ List.mem_cons_self ..)]
      · exact ih (hl ▸ List.mem_cons_of_mem _ h)

theorem split_append_slash (a b : List Char) : split (a ++ '/' :: b) = split a ++ split b := by
  induction a with
  | nil => exact split_slash b
  | cons c a ih =>
    by_cases hc : c = '/'
    · subst hc
      rw [List.cons_append, split_slash, split_slash, ih]
      rfl
    · obtain ⟨p, ps, hp⟩ := exists_split a
      rw [hp] at ih
      rw [List.cons_append, split_cons hc hp, split_cons hc ih]
      rfl

/-- Where the first segments agree, both texts begin with the same character. -/
theorem split_cons_prefix {c : Char} {r path : List Char} (h : split (c :: r) <+: split path) :
    ∃ rest, path = c :: rest ∧ split r <+: split rest := by
  obtain ⟨q, qs, hq⟩ := exists_split r
  cases path with
  | nil =>
    by_cases hc : c = '/'
    · subst hc
      rw [split_slash, hq, split, List.cons_prefix_cons] at h
      simp at h
    · rw [split_cons hc hq, split, List.cons_prefix_cons] at h
      simp at h
  | cons d path =>
    obtain ⟨p, ps, hp⟩ := exists_split path
    refine ⟨path, ?_⟩
    by_cases hc : c = '/' <;> by_cases hd : d = '/'
    · subst hc hd
      rw [split_slash, split_slash, List.cons_prefix_cons] at h
      exact ⟨rfl, h.2⟩
    · subst hc
      rw [split_slash, split_cons hd hp, List.cons_prefix_cons] at h
      exact absurd h.1 (by simp)
    · subst hd
      rw [split_slash, split_cons hc hq, List.cons_prefix_cons] at h
      exact absurd h.1 (by simp)
    · rw [split_cons hc hq, split_cons hd hp, List.cons_prefix_cons] at h
      obtain ⟨rfl, rfl⟩ := List.cons.inj h.1
      rw [hq, hp]
      exact ⟨rfl, List.cons_prefix_cons.mpr ⟨rfl, h.2⟩⟩

/-- The segments of a text are the first of a path when the path is the text, or goes on after it
with a slash. -/
theorem split_prefix_iff {r path : List Char} :
    split r <+: split path ↔ path = r ∨ ∃ rest, path = r ++ '/' :: rest := by
  constructor
  · intro h
    induction r generalizing path with
    | nil =>
      cases path with
      | nil => exact .inl rfl
      | cons c path =>
        by_cases hc : c = '/'
        · subst hc
          exact .inr ⟨path, rfl⟩
        · obtain ⟨p, ps, hp⟩ := exists_split path
          rw [split_cons hc hp] at h
          exact absurd (List.cons_prefix_cons.mp h).1 (by simp)
    | cons c r ih =>
      obtain ⟨path, rfl, hpath⟩ := split_cons_prefix h
      rcases ih hpath with rfl | ⟨rest, rfl⟩
      · exact .inl rfl
      · exact .inr ⟨rest, rfl⟩
  · rintro (rfl | ⟨rest, rfl⟩)
    · exact List.prefix_refl _
    · rw [split_append_slash]
      exact List.prefix_append ..

/-! ### Components -/

theorem Component.text_ofPart_ne {part : List Char} {c : Component}
    (h : componentOfPart? part = some c) : c.text ≠ "" := by
  unfold componentOfPart? at h
  split at h
  · cases h
  · next hpart =>
    split at h
    · cases h
      simp [Component.text]
    · cases h
      simpa [Component.text] using (not_or.mp hpart).1

theorem mem_components {p : Path} {c : Component} (h : c ∈ p.components) :
    c = .root ∨ c = .here ∨ ∃ part ∈ split p.text.toList, componentOfPart? part = some c := by
  unfold components componentsOfParts at h
  split at h
  · cases h
  · next parts hparts =>
    rw [hparts]
    split at h
    · cases h
    · rcases List.mem_cons.mp h with rfl | h
      · exact .inl rfl
      · obtain ⟨part, hmem, hpart⟩ := List.mem_filterMap.mp h
        exact .inr (.inr ⟨part, List.mem_cons_of_mem _ hmem, hpart⟩)
  · next part parts _ hparts =>
    rw [hparts]
    rcases List.mem_append.mp h with h | h
    · split at h
      · exact .inr (.inl (List.mem_singleton.mp h))
      · exact .inr (.inr ⟨part, List.mem_cons_self .., Option.mem_toList.mp h⟩)
    · obtain ⟨part, hmem, hpart⟩ := List.mem_filterMap.mp h
      exact .inr (.inr ⟨part, List.mem_cons_of_mem _ hmem, hpart⟩)

/-- No component is an empty text. -/
theorem text_ne_of_mem_components {p : Path} {c : Component} (h : c ∈ p.components) :
    c.text ≠ "" := by
  rcases mem_components h with rfl | rfl | ⟨part, -, hpart⟩
  · simp [Component.text]
  · simp [Component.text]
  · exact Component.text_ofPart_ne hpart

/-! ### Extensions -/

/-- The extension of a name is what follows its last point, if something stands before it. -/
theorem extensionOfName?_eq_some {name e : List Char} :
    extensionOfName? name = some e ↔ ∃ stem, stem ≠ [] ∧ name = stem ++ '.' :: e ∧ '.' ∉ e := by
  unfold extensionOfName?
  constructor
  · intro h
    have hsplit := List.takeWhile_append_dropWhile (p := (· != '.')) (l := name.reverse)
    cases hrest : name.reverse.dropWhile (· != '.') with
    | nil => simp [hrest] at h
    | cons c rest =>
      have hpoint : c = '.' := by
        have hhead := List.head_dropWhile_not (l := name.reverse) (· != '.') (by simp [hrest])
        simpa [hrest] using hhead
      simp only [hrest, List.drop_succ_cons, List.drop_zero] at h
      split at h
      · cases h
      · next hne =>
        cases h
        refine ⟨rest.reverse, by simpa using hne, ?_, ?_⟩
        · rw [hrest, hpoint] at hsplit
          have hname := congrArg List.reverse hsplit
          simpa using hname.symm
        · intro hmem
          have hall := List.all_eq_true.mp List.all_takeWhile '.' (List.mem_reverse.mp hmem)
          simp at hall
  · rintro ⟨stem, hstem, rfl, hpoint⟩
    have hall : ∀ c ∈ e.reverse, (c != '.') = true := by
      intro c hc
      have hne : c ≠ '.' := fun he => hpoint (he ▸ List.mem_reverse.mp hc)
      simpa using hne
    have hreverse : (stem ++ '.' :: e).reverse = e.reverse ++ '.' :: stem.reverse := by simp
    simp only [hreverse, List.takeWhile_append_of_pos hall, List.dropWhile_append_of_pos hall]
    simp [hstem]

end PolicyPack.Path
