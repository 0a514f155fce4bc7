import PolicyPack.Proofs.BytePath
import PolicyPack.Sources.Load

/-!
# Names of entries

A directory entry has a name without a slash that is no step to the same directory or to the one
above. However the path of a directory is spelled, the paths below it have its components and then
the names that lead to them.
-/

namespace PolicyPack.Path

/-- A text that an entry of a directory can have as its name. -/
structure IsName (name : String) : Prop where
  ne_empty : name ≠ ""
  ne_here : name ≠ "."
  ne_up : name ≠ ".."
  no_slash : '/' ∉ name.toList

theorem isName_iff {name : String} :
    IsName name ↔ name ≠ "" ∧ name ≠ "." ∧ name ≠ ".." ∧ '/' ∉ name.toList :=
  ⟨fun h => ⟨h.1, h.2, h.3, h.4⟩, fun h => ⟨h.1, h.2.1, h.2.2.1, h.2.2.2⟩⟩

instance : DecidablePred IsName := fun _ => decidable_of_iff _ isName_iff.symm

/-- The path that names lead to. -/
def descend (p : Path) (names : List String) : Path := names.foldl Path.child p

@[simp] theorem descend_nil (p : Path) : p.descend [] = p := rfl

@[simp] theorem descend_cons (p : Path) (name : String) (names : List String) :
    p.descend (name :: names) = (p.child name).descend names := rfl

theorem descend_concat (p : Path) (names : List String) (name : String) :
    p.descend (names ++ [name]) = (p.descend names).child name := by
  rw [descend, List.foldl_append]
  rfl

/-! ### Parts -/

variable {name : String}

theorem IsName.componentOfPart?_eq (h : IsName name) :
    componentOfPart? name.toList = some (.name name) := by
  have hempty : name.toList ≠ [] := fun he => h.ne_empty (String.toList_inj.mp he)
  have hhere : name.toList ≠ ['.'] := fun he => h.ne_here (String.toList_inj.mp he)
  have hup : name.toList ≠ ['.', '.'] := fun he => h.ne_up (String.toList_inj.mp he)
  rw [componentOfPart?, if_neg (not_or.mpr ⟨hempty, hhere⟩), if_neg hup, String.ofList_toList]

theorem isName_of_componentOfPart? {part : List Char} (hslash : '/' ∉ part)
    (h : componentOfPart? part = some (.name name)) : IsName name ∧ part = name.toList := by
  unfold componentOfPart? at h
  split at h
  · cases h
  · next hpart =>
    split at h
    · cases h
    · next hup =>
      cases h
      obtain ⟨hempty, hhere⟩ := not_or.mp hpart
      have hne {l : List Char} (hl : part ≠ l) : String.ofList part ≠ String.ofList l :=
        fun he => hl (String.ofList_injective he)
      exact ⟨⟨hne hempty, hne hhere, hne hup, by simpa using hslash⟩, by simp⟩

theorem filterMap_blank (parts : List (List Char)) :
    (parts ++ [[]]).filterMap componentOfPart? = parts.filterMap componentOfPart? := by
  rw [List.filterMap_append]
  exact List.append_nil _

/-- Parts keep their meaning, whatever follows them. -/
theorem componentsOfParts_append {parts more : List (List Char)} (h : parts ≠ [])
    (hmore : more ≠ []) :
    componentsOfParts (parts ++ more)
      = componentsOfParts (parts ++ [[]]) ++ more.filterMap componentOfPart? := by
  cases parts with
  | nil => exact absurd rfl h
  | cons first parts =>
    cases first with
    | nil =>
      simp only [List.cons_append, componentsOfParts]
      rw [if_neg (by simp [hmore]), if_neg (by simp), List.filterMap_append, filterMap_blank,
        List.cons_append]
    | cons c first =>
      simp only [List.cons_append, componentsOfParts]
      rw [List.filterMap_append, filterMap_blank, List.append_assoc]

theorem componentsOfParts_blank {parts : List (List Char)} (h : parts ≠ [])
    (hblank : parts ≠ [[]]) : componentsOfParts (parts ++ [[]]) = componentsOfParts parts := by
  cases parts with
  | nil => exact absurd rfl h
  | cons first parts =>
    cases first with
    | nil =>
      have hparts : parts ≠ [] := fun he => hblank (by rw [he])
      simp only [List.cons_append, componentsOfParts]
      rw [if_neg (by simp), if_neg hparts, filterMap_blank]
    | cons c first =>
      simp only [List.cons_append, componentsOfParts]
      rw [filterMap_blank]

/-! ### Joined paths -/

/-- A joined path has the text of the directory, but for a slash at its end, and after a slash that
of the path. -/
theorem exists_join_text {base p : Path} (hbase : base.text ≠ "") (hp : p.isAbsolute = false) :
    ∃ a, (base.text.toList = a ∨ base.text.toList = a ++ ['/']) ∧
      (base.join p).text.toList = a ++ '/' :: p.text.toList := by
  have hempty : base.text.isEmpty = false := by simpa using hbase
  by_cases hlast : base.text.toList.getLast? = some '/'
  · obtain ⟨a, ha⟩ := List.getLast?_eq_some_iff.mp hlast
    refine ⟨a, .inr ha, ?_⟩
    simp [join, hp, hempty, ha]
  · refine ⟨base.text.toList, .inl rfl, ?_⟩
    simp [join, hp, hempty, hlast]

theorem split_eq_singleton_nil {l : List Char} (h : split l = [[]]) : l = [] := by
  cases l with
  | nil => rfl
  | cons c l =>
    obtain ⟨first, parts, hl⟩ := exists_split l
    by_cases hc : c = '/'
    · subst hc
      rw [split_slash, hl] at h
      simp at h
    · rw [split_cons hc hl] at h
      simp at h

theorem componentsOfParts_singleton (h : IsName name) :
    componentsOfParts [name.toList] = [.name name] := by
  have hhere : name.toList ≠ ['.'] := fun he => h.ne_here (String.toList_inj.mp he)
  have hpart := h.componentOfPart?_eq
  cases hname : name.toList with
  | nil => exact absurd (String.toList_inj.mp hname) h.ne_empty
  | cons c rest =>
    rw [hname] at hhere hpart
    rw [componentsOfParts, if_neg hhere, hpart]
    · rfl
    · exact List.cons_ne_nil c rest

theorem components_of_name (h : IsName name) : components ⟨name⟩ = [.name name] := by
  rw [components, split_of_not_mem h.no_slash, componentsOfParts_singleton h]

theorem components_join {base p : Path} (hbase : base.text ≠ "") (hp : p.isAbsolute = false) :
    (base.join p).components
      = base.components ++ (split p.text.toList).filterMap componentOfPart? := by
  obtain ⟨a, ha, hjoin⟩ := exists_join_text hbase hp
  obtain ⟨first, parts, hfirst⟩ := exists_split a
  obtain ⟨part, more, hpart⟩ := exists_split p.text.toList
  have hblank : componentsOfParts (split a ++ [[]]) = base.components := by
    rcases ha with ha | ha
    · have hne : split a ≠ [[]] := fun he =>
        hbase (String.toList_inj.mp (ha.trans (split_eq_singleton_nil he)))
      rw [componentsOfParts_blank (by simp [hfirst]) hne, components, ha]
    · -- the slash at the end stands before an empty part, in whose place the path is put
      rw [components, ha, split_append_slash]
      rfl
  rw [components, hjoin, split_append_slash,
    componentsOfParts_append (by simp [hfirst]) (by simp [hpart]), hblank]

/-! ### Children -/

theorem isAbsolute_of_isName (h : IsName name) : isAbsolute ⟨name⟩ = false := by
  refine decide_eq_false fun hhead => h.no_slash ?_
  exact List.mem_of_mem_head? hhead

theorem components_child (p : Path) (h : IsName name) :
    (p.child name).components = p.components ++ [.name name] := by
  by_cases hp : p.text = ""
  · have hchild : p.child name = ⟨name⟩ := by
      rw [child, join, hp]
      simp
    have hnone : p.components = [] := by
      rw [components, hp]
      rfl
    rw [hchild, hnone, components_of_name h, List.nil_append]
  · rw [child, components_join hp (isAbsolute_of_isName h), split_of_not_mem h.no_slash,
      List.filterMap_cons_some h.componentOfPart?_eq, List.filterMap_nil]

variable {names : List String}

/-- The components of a path below another are its components, and then the names. -/
theorem components_descend (p : Path) (h : ∀ name ∈ names, IsName name) :
    (p.descend names).components = p.components ++ names.map .name := by
  induction names generalizing p with
  | nil => simp
  | cons name names ih =>
    rw [descend_cons, ih _ fun k hk => h k (List.mem_cons_of_mem _ hk),
      components_child p (h name (List.mem_cons_self ..)), List.append_assoc]
    rfl

theorem fileName?_child (p : Path) (h : IsName name) : (p.child name).fileName? = some name := by
  rw [fileName?, components_child p h, List.getLast?_concat]

theorem componentsBelow?_descend (p : Path) (h : ∀ name ∈ names, IsName name) :
    componentsBelow? p (p.descend names) = some (names.map .name) := by
  rw [componentsBelow?, components_descend p h]
  simp

theorem isName_of_fileName? {p : Path} (h : p.fileName? = some name) : IsName name := by
  have hlast : p.components.getLast? = some (.name name) := by
    unfold fileName? at h
    split at h
    · cases h
      assumption
    · cases h
  rcases mem_components (List.mem_of_getLast? hlast) with hroot | hhere | ⟨part, hmem, hpart⟩
  · cases hroot
  · cases hhere
  · exact (isName_of_componentOfPart? (no_slash_of_mem_split hmem) hpart).1

end PolicyPack.Path

namespace PolicyPack

open PolicyPack.Path

variable {root : Path} {names : List String}

/-! ### Keys -/

theorem isName_encode {name : String} (h : IsName name) : IsName (Text.encode name) := by
  have hne {s : String} (hs : Text.encode s = s) (hname : name ≠ s) : Text.encode name ≠ s :=
    (Text.encode_injective.ne_iff' hs).mpr hname
  refine ⟨hne (by decide) h.ne_empty, hne (by decide) h.ne_here, hne (by decide) h.ne_up, ?_⟩
  rw [Text.toList_encode]
  exact fun hslash => h.no_slash (slash_mem_encodeChars hslash)

theorem keyComponents_descend (root : Path) (h : ∀ name ∈ names, IsName name) (hne : names ≠ []) :
    keyComponents root (root.descend names) = names.map .name := by
  rw [keyComponents, componentsBelow?_descend root h]
  cases names with
  | nil => exact absurd rfl hne
  | cons name names => rfl

theorem directoryComponents_descend (root : Path) (h : ∀ name ∈ names, IsName name) :
    directoryComponents root (root.descend names) = names.dropLast.map .name := by
  rw [directoryComponents, componentsBelow?_descend root h, Option.getD_some, List.map_dropLast]

theorem keyComponents_self {name : String} (h : root.fileName? = some name) :
    keyComponents root root = [.name name] := by
  have hnone : ∀ name ∈ ([] : List String), IsName name := nofun
  have hself := componentsBelow?_descend root hnone
  rw [descend_nil, List.map_nil] at hself
  rw [keyComponents, hself, h]
  exact components_of_name (isName_of_fileName? h)

theorem keyComponents_encoded (root p : Path) : keyComponents root.encoded p.encoded
    = (keyComponents root p).map Component.encoded := by
  have hself : ((p.encoded.fileName?.map Path.mk).getD p.encoded)
      = ((p.fileName?.map Path.mk).getD p).encoded := by
    rw [fileName?_encoded]
    cases p.fileName? <;> rfl
  rw [keyComponents, keyComponents, componentsBelow?_encoded, hself, components_encoded]
  cases componentsBelow? root p with
  | none => rfl
  | some cs => cases cs <;> rfl

theorem directoryComponents_encoded (root p : Path) :
    directoryComponents root.encoded p.encoded
      = (directoryComponents root p).map Component.encoded := by
  rw [directoryComponents, directoryComponents, componentsBelow?_encoded, components_encoded,
    List.map_dropLast]
  cases componentsBelow? root p <;> rfl

/-- The names of a path that is text are read from its bytes as they are. -/
theorem map_reading_encoded (cs : List Component) :
    (cs.map Component.encoded).map Component.reading = cs.map Component.text := by
  rw [List.map_map]
  exact List.map_congr_left fun c _ => c.reading_encoded

theorem reading_ofBytes (name : ByteArray) :
    (Component.name (Text.ofBytes name)).reading = Text.ofUtf8Lenient name := by
  rw [Component.reading, Component.text, Text.heldBytes_ofBytes]

/-- Below a path of bytes, keys are made of the names as they are read. -/
theorem keyOfBytes_descend (root : Path) {names : List ByteArray}
    (h : ∀ name ∈ names, IsName (Text.ofBytes name)) (hne : names ≠ []) :
    keyOfBytes root (root.descend (names.map Text.ofBytes))
      = "/".intercalate (names.map Text.ofUtf8Lenient) := by
  rw [keyOfBytes, keyComponents_descend root (List.forall_mem_map.mpr h) (by simpa using hne),
    List.map_map, List.map_map]
  exact congrArg ("/".intercalate ·) (List.map_congr_left fun name _ => reading_ofBytes name)

theorem directoryKeysOfBytes_descend (root : Path) {names : List ByteArray}
    (h : ∀ name ∈ names, IsName (Text.ofBytes name)) :
    directoryKeysOfBytes root (root.descend (names.map Text.ofBytes))
      = names.dropLast.map Text.ofUtf8Lenient := by
  rw [directoryKeysOfBytes, directoryComponents_descend root (List.forall_mem_map.mpr h),
    ← List.map_dropLast, List.map_map, List.map_map]
  exact List.map_congr_left fun name _ => reading_ofBytes name

theorem directoryKeysOfBytes_self (root : Path) : directoryKeysOfBytes root root = [] := by
  have hself := @directoryKeysOfBytes_descend root [] nofun
  rwa [List.map_nil, descend_nil] at hself

theorem keyOfBytes_self {name : ByteArray} (h : root.fileName? = some (Text.ofBytes name)) :
    keyOfBytes root root = Text.ofUtf8Lenient name := by
  rw [keyOfBytes, keyComponents_self h, List.map_singleton, reading_ofBytes]
  exact String.intercalate_singleton

theorem moduleKey_text (root p : Path) :
    moduleKey root p = "/".intercalate ((keyComponents root p).map Component.text) := by
  rw [moduleKey, keyOfBytes, keyComponents_encoded, map_reading_encoded]

theorem directoryKeys_text (root p : Path) :
    directoryKeys root p = (directoryComponents root p).map Component.text := by
  rw [directoryKeys, directoryKeysOfBytes, directoryComponents_encoded, map_reading_encoded]

theorem directoryKeys_descend (root : Path) (h : ∀ name ∈ names, IsName name) :
    directoryKeys root (root.descend names) = names.dropLast := by
  rw [directoryKeys_text, directoryComponents_descend root h, List.map_map]
  exact List.map_id _

/-- Below the root a module is known by the names that lead to it. -/
theorem moduleKey_descend (root : Path) (h : ∀ name ∈ names, IsName name) (hne : names ≠ []) :
    moduleKey root (root.descend names) = "/".intercalate names := by
  rw [moduleKey_text, keyComponents_descend root h hne, List.map_map]
  exact congrArg ("/".intercalate ·) (List.map_id _)

/-- A root that is a file is known by its own name. -/
theorem moduleKey_self {name : String} (h : root.fileName? = some name) :
    moduleKey root root = name := by
  rw [moduleKey_text, keyComponents_self h]
  exact String.intercalate_singleton

end PolicyPack
