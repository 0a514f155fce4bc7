import PolicyPack.Proofs.Files.Tree

/-!
# Following paths

What a path leads to is a part of the tree, so it is as well-formed as the tree. Only a path that
ends in a name leads to a file, and looking at what a path leads to differs from following the path
to its end only where a link stands at the end.
-/

namespace PolicyPack.FileTree

open PolicyPack.Path

variable {root here n : Node} {above : List Node} {last : Bool} {links : Nat} {steps : List Step}

/-! ### Steps into entries -/

section Into

variable {entries : List (String × Node)} {name : String} {rest : List Step}

theorem follow_into {m : Node} (hfind : Dictionary.find? name entries = some m)
    (hm : ∀ target, m ≠ .link target) :
    follow root last links (.directory entries) above (.into name :: rest)
      = follow root last links m (.directory entries :: above) rest := by
  rw [follow, hfind]
  cases m with
  | link target => exact absurd rfl (hm target)
  | _ => rfl

theorem follow_into_link {target : Path}
    (hfind : Dictionary.find? name entries = some (.link target))
    (hrest : ¬ (rest.isEmpty && !last) = true) :
    follow root last (links + 1) (.directory entries) above (.into name :: rest)
      = follow root last links (.directory entries) above (target.steps ++ rest) := by
  rw [follow, hfind]
  simp only
  rw [if_neg hrest]

end Into

/-- Nothing is below what is no directory. -/
theorem follow_below {step : Step} {rest : List Step}
    (hhere : ∀ entries, here ≠ .directory entries) :
    follow root last links here above (step :: rest) = .error .notDirectory :=
  follow.eq_7 _ _ _ _ _ _ _ hhere

/-! ### What is reached -/

theorem wellFormed_follow (hroot : root.WellFormed) (hhere : here.WellFormed)
    (habove : ∀ m ∈ above, m.WellFormed) (h : follow root last links here above steps = .ok n) :
    n.WellFormed := by
  fun_induction follow root last links here above steps with
  | case1 =>
    cases h
    exact hhere
  | case2 _ _ _ _ ih => exact ih hroot (List.forall_mem_nil _) h
  | case3 _ _ _ _ ih => exact ih hhere habove h
  | case4 _ _ _ ih => exact ih hhere (List.forall_mem_nil _) h
  | case5 _ _ _ parent above ih =>
    exact ih (habove _ (List.mem_cons_self ..)) (fun m hm => habove m (List.mem_cons_of_mem _ hm)) h
  | case6 => cases h
  | case7 =>
    cases h
    exact .link _
  | case8 => cases h
  | case9 _ _ _ _ _ _ _ _ ih => exact ih hhere habove h
  | case10 _ _ _ _ _ _ _ hfind ih =>
    have hnext := (Node.wellFormed_directory.mp hhere).2.2 _ (Dictionary.mem_of_find? hfind)
    exact ih hnext (List.forall_mem_cons.mpr ⟨hhere, habove⟩) h
  | case11 => cases h

/-- Where the last step is not to a name, only a directory is reached. -/
theorem follow_directory (hroot : root.isDirectory) (habove : ∀ m ∈ above, m.isDirectory)
    {s : Step} (hlast : steps.getLast? = some s) (hs : ∀ name, s ≠ .into name)
    (h : follow root last links here above steps = .ok n) : n.isDirectory := by
  -- after the last step nothing moves on from the directory it leads to
  have hrest {links : Nat} {here : Node} {above : List Node} {step : Step} {rest : List Step}
      (hlast : (step :: rest).getLast? = some s) (hhere : here.isDirectory)
      (ih : rest.getLast? = some s → follow root last links here above rest = .ok n →
        n.isDirectory) (h : follow root last links here above rest = .ok n) : n.isDirectory := by
    cases rest with
    | nil =>
      rw [follow] at h
      cases h
      exact hhere
    | cons next rest => exact ih (by rwa [List.getLast?_cons_cons] at hlast) h
  fun_induction follow root last links here above steps with
  | case1 => cases hlast
  | case2 _ _ _ _ ih => exact hrest hlast hroot (fun hl => ih (List.forall_mem_nil _) hl) h
  | case3 _ _ _ _ ih => exact hrest hlast rfl (ih habove) h
  | case4 _ _ _ ih => exact hrest hlast rfl (fun hl => ih (List.forall_mem_nil _) hl) h
  | case5 _ _ _ parent above ih =>
    exact hrest hlast (habove _ (List.mem_cons_self ..))
      (ih fun m hm => habove m (List.mem_cons_of_mem _ hm)) h
  | case6 => cases h
  | case7 _ _ rest _ name _ _ hend =>
    obtain rfl : rest = [] := List.isEmpty_iff.mp (Bool.and_eq_true_iff.mp hend).1
    exact absurd (Option.some_inj.mp hlast).symm (hs name)
  | case8 => cases h
  | case9 _ rest _ name target _ _ _ ih =>
    cases rest with
    | nil => exact absurd (Option.some_inj.mp hlast).symm (hs name)
    | cons next rest =>
      rw [List.getLast?_cons_cons] at hlast
      exact ih habove (by rw [List.getLast?_append, hlast]; rfl) h
  | case10 _ _ rest _ name _ _ _ ih =>
    cases rest with
    | nil => exact absurd (Option.some_inj.mp hlast).symm (hs name)
    | cons next rest =>
      rw [List.getLast?_cons_cons] at hlast
      exact ih (List.forall_mem_cons.mpr ⟨rfl, habove⟩) hlast h
  | case11 => cases h

/-- What is found without following a link at the end, and is no link, is found by following. -/
theorem follow_of_ne_link (hn : ∀ target, n ≠ .link target)
    (h : follow root false links here above steps = .ok n) :
    follow root true links here above steps = .ok n := by
  fun_induction follow root false links here above steps with
  | case1 => rwa [follow]
  | case2 _ _ _ _ ih | case3 _ _ _ _ ih | case4 _ _ _ ih | case5 _ _ _ _ _ ih =>
    rw [follow]
    exact ih h
  | case6 => cases h
  | case7 _ _ _ _ _ target =>
    cases h
    exact absurd rfl (hn target)
  | case8 => cases h
  | case9 _ _ _ _ _ hfind _ _ ih =>
    rw [follow_into_link hfind (by simp)]
    exact ih h
  | case10 _ _ _ _ _ next hnext hfind ih =>
    rw [follow_into hfind fun target he => hnext target he]
    exact ih h
  | case11 => cases h

/-- A fault that is met without following a link at the end is met by following. -/
theorem follow_of_error {f : FileFault} (h : follow root false links here above steps = .error f) :
    follow root true links here above steps = .error f := by
  fun_induction follow root false links here above steps with
  | case1 => cases h
  | case2 _ _ _ _ ih | case3 _ _ _ _ ih | case4 _ _ _ ih | case5 _ _ _ _ _ ih =>
    rw [follow]
    exact ih h
  | case6 _ _ _ _ _ hfind =>
    rw [follow, hfind]
    exact h
  | case7 => cases h
  | case8 _ _ _ _ _ hfind =>
    rw [follow, hfind]
    simpa using h
  | case9 _ _ _ _ _ hfind _ _ ih =>
    rw [follow_into_link hfind (by simp)]
    exact ih h
  | case10 _ _ _ _ _ next hnext hfind ih =>
    rw [follow_into hfind fun target he => hnext target he]
    exact ih h
  | case11 _ _ _ _ _ hhere =>
    rw [follow_below hhere]
    exact h

/-- Steps are followed one after the other: a fault in the first ones is a fault, and the others go
on from what the first ones reach. -/
theorem follow_append (links : Nat) (here : Node) (above : List Node) (steps : List Step) :
    (∀ f, follow root true links here above steps = .error f →
      ∀ last more, more ≠ [] → follow root last links here above (steps ++ more) = .error f) ∧
    ∀ n, follow root true links here above steps = .ok n → ∃ links' above',
      ∀ last more, more ≠ [] → follow root last links here above (steps ++ more)
        = follow root last links' n above' more := by
  -- a link at the end of the first steps is not at the end of all
  have hend (last : Bool) (rest : List Step) {more : List Step} (hmore : more ≠ []) :
      ¬ ((rest ++ more).isEmpty && !last) = true := by simp [hmore]
  fun_induction follow root true links here above steps with
  | case1 links here above =>
    refine ⟨nofun, fun n hn => ⟨links, above, fun last more _ => ?_⟩⟩
    cases hn
    rfl
  | case2 _ _ _ _ ih | case3 _ _ _ _ ih | case4 _ _ _ ih | case5 _ _ _ _ _ ih =>
    simp only [List.cons_append]
    simp only [follow]
    exact ih
  | case6 _ _ _ _ _ hfind =>
    refine ⟨fun f hf last more _ => ?_, nofun⟩
    rw [List.cons_append, follow, hfind]
    exact hf
  | case7 _ _ _ _ _ _ _ hempty => simp at hempty
  | case8 _ _ rest _ _ hfind =>
    refine ⟨fun f hf last more hmore => ?_, nofun⟩
    rw [List.cons_append, follow, hfind]
    simp only
    rw [if_neg (hend last _ hmore)]
    exact hf
  | case9 _ rest _ _ _ hfind _ _ ih =>
    obtain ⟨herror, hok⟩ := ih
    constructor
    · intro f hf last more hmore
      rw [List.cons_append, follow_into_link hfind (hend last rest hmore), ← List.append_assoc]
      exact herror f hf last more hmore
    · intro n hn
      obtain ⟨links', above', hfollow⟩ := hok n hn
      refine ⟨links', above', fun last more hmore => ?_⟩
      rw [List.cons_append, follow_into_link hfind (hend last rest hmore), ← List.append_assoc]
      exact hfollow last more hmore
  | case10 _ _ _ _ _ next hnext hfind ih =>
    simp only [List.cons_append, follow_into hfind fun target he => hnext target he]
    exact ih
  | case11 _ _ _ _ _ hhere =>
    refine ⟨fun f hf last more _ => ?_, nofun⟩
    rw [List.cons_append, follow_below hhere]
    exact hf

theorem follow_stay (h : follow root true links here above (steps ++ [.stay]) = .ok n) :
    follow root true links here above steps = .ok n := by
  obtain ⟨herror, hok⟩ := @follow_append root links here above steps
  have hne : [Step.stay] ≠ [] := List.cons_ne_nil _ _
  cases hs : follow root true links here above steps with
  | error f =>
    rw [herror f hs true _ hne] at h
    cases h
  | ok m =>
    obtain ⟨links', above', hmore⟩ := hok m hs
    rw [hmore true _ hne] at h
    cases m with
    | directory entries => rwa [follow, follow] at h
    | file | link =>
      rw [follow_below (by simp)] at h
      cases h

/-! ### Paths -/

/-- A tree has a directory at its top, and is well-formed below it. -/
structure WellFormed (t : FileTree) : Prop where
  directory : t.root.isDirectory
  nodes : t.root.WellFormed

variable {t : FileTree} {p : Path}

theorem locate_eq_ok (h : t.locate last p = .ok n) :
    follow t.root last linkLimit t.root []
      (if p.isAbsolute then p.steps else t.working.steps ++ p.steps) = .ok n := by
  unfold locate at h
  split at h
  · cases h
  split at h
  · cases h
  split at h
  · cases h
  · exact h

/-- From the top, a relative path is followed by its own steps. -/
theorem locate_of_working (hworking : t.working = ⟨"/"⟩) (hroot : t.root.isDirectory)
    (hp : '\x00' ∉ p.text.toList ∧ p.text.isEmpty = false ∧ p.text.utf8ByteSize ≤ pathLimit ∧
      p.isAbsolute = false) :
    t.locate last p = follow t.root last linkLimit t.root [] p.steps := by
  obtain ⟨hzero, hempty, hlimit, hrelative⟩ := hp
  have hsteps : Path.steps ⟨"/"⟩ = [.root, .stay, .stay] := by decide
  rw [FileTree.locate, if_neg hzero, if_neg (by simp [hempty]), if_neg (Nat.not_lt.mpr hlimit),
    hrelative, hworking, hsteps]
  cases hr : t.root with
  | file | link =>
    rw [hr] at hroot
    cases hroot
  | directory entries => simp [follow]

theorem checkLength_eq_ok : checkLength p = .ok () ↔ p.text.utf8ByteSize ≤ pathLimit := by
  simp [checkLength]

theorem size_le_of_locate (h : t.locate last p = .ok n) : p.text.utf8ByteSize ≤ pathLimit := by
  unfold locate at h
  split at h
  · cases h
  split at h
  · cases h
  split at h
  · cases h
  · next hlimit => exact Nat.not_lt.mp hlimit

theorem WellFormed.locate (ht : t.WellFormed) (h : t.locate last p = .ok n) : n.WellFormed :=
  wellFormed_follow ht.nodes ht.nodes (List.forall_mem_nil _) (locate_eq_ok h)

theorem locate_congr {r : Except FileFault Node → Except FileFault Node → Prop}
    (hself : ∀ f, r (.error f) (.error f))
    (hfollow : r (follow t.root false linkLimit t.root []
        (if p.isAbsolute then p.steps else t.working.steps ++ p.steps))
      (follow t.root true linkLimit t.root []
        (if p.isAbsolute then p.steps else t.working.steps ++ p.steps))) :
    r (t.entry p) (t.status p) := by
  unfold entry status FileTree.locate
  split
  · exact hself _
  split
  · exact hself _
  split
  · exact hself _
  · exact hfollow

theorem status_of_entry (h : t.entry p = .ok n) (hn : ∀ target, n ≠ .link target) :
    t.status p = .ok n :=
  locate_congr (r := fun e s => e = .ok n → s = .ok n) nofun (follow_of_ne_link hn) h

theorem exists_entry (h : t.status p = .ok n) : ∃ m, t.entry p = .ok m := by
  cases he : t.entry p with
  | ok m => exact ⟨m, rfl⟩
  | error f =>
    have hs : t.status p = .error f :=
      locate_congr (r := fun e s => e = .error f → s = .error f) (fun _ => id) follow_of_error he
    rw [hs] at h
    cases h

theorem isDirectory_of_status (h : t.status p = .ok n) : t.isDirectory p = n.isDirectory := by
  rw [isDirectory, h]

theorem isDirectory_eq_true :
    t.isDirectory p = true ↔ ∃ n, t.status p = .ok n ∧ n.isDirectory := by
  unfold isDirectory
  cases t.status p <;> simp

theorem ofPart_eq_into {part : List Char} {name : String} (h : Step.ofPart part = .into name) :
    componentOfPart? part = some (.name name) := by
  unfold Step.ofPart at h
  unfold componentOfPart?
  split at h
  · cases h
  · split at h
    · cases h
    · next hblank hup =>
      cases h
      rw [if_neg hblank, if_neg hup]

/-- A path whose last step is to a name has that name as its last component. -/
theorem fileName?_of_steps {name : String} (h : p.steps.getLast? = some (.into name)) :
    p.fileName? = some name := by
  obtain ⟨parts, part, hsplit⟩ : ∃ parts part, split p.text.toList = parts ++ [part] := by
    obtain ⟨first, rest, hfirst⟩ := exists_split p.text.toList
    rcases List.eq_nil_or_concat (split p.text.toList) with hnil | ⟨parts, part, hconcat⟩
    · simp [hfirst] at hnil
    · exact ⟨parts, part, by rw [hconcat, List.concat_eq_append]⟩
  have hlast : p.steps.getLast? = some (Step.ofPart part) := by
    rw [steps, hsplit]
    split <;> simp [List.getLast?_cons]
  have hpart := ofPart_eq_into (Option.some_inj.mp (hlast.symm.trans h))
  rw [fileName?, components, hsplit]
  cases parts with
  | nil =>
    have hmem : part ∈ split p.text.toList := by simp [hsplit]
    obtain ⟨hname, rfl⟩ := isName_of_componentOfPart? (no_slash_of_mem_split hmem) hpart
    rw [List.nil_append, componentsOfParts_singleton hname]
    rfl
  | cons first parts =>
    rw [componentsOfParts_append (by simp) (by simp), List.filterMap_cons_some hpart,
      List.filterMap_nil, List.getLast?_concat]

theorem steps_ne_nil (p : Path) : p.steps ≠ [] := by
  obtain ⟨first, rest, hsplit⟩ := exists_split p.text.toList
  rw [steps, hsplit]
  split <;> simp

/-- The last step to a file is to a name. -/
theorem exists_into_of_file (ht : t.WellFormed) {content : ByteArray}
    (h : t.locate last p = .ok (.file content)) :
    ∃ name, p.steps.getLast? = some (.into name) := by
  have hfollow := locate_eq_ok h
  obtain ⟨s, hs⟩ : ∃ s, p.steps.getLast? = some s :=
    ⟨_, List.getLast?_eq_some_getLast (steps_ne_nil p)⟩
  have hlast : (if p.isAbsolute then p.steps else t.working.steps ++ p.steps).getLast?
      = some s := by
    split
    · exact hs
    · rw [List.getLast?_append, hs]
      rfl
  by_cases hinto : ∃ name, s = .into name
  · obtain ⟨name, rfl⟩ := hinto
    exact ⟨name, hs⟩
  · have hdirectory := follow_directory ht.directory (List.forall_mem_nil _) hlast
      (fun name he => hinto ⟨name, he⟩) hfollow
    cases hdirectory

/-- A path that leads to a file ends in a name. -/
theorem exists_fileName? (ht : t.WellFormed) {content : ByteArray}
    (h : t.entry p = .ok (.file content)) : ∃ name, p.fileName? = some name := by
  obtain ⟨name, hname⟩ := exists_into_of_file ht h
  exact ⟨name, fileName?_of_steps hname⟩

/-! ### Paths below a path -/

theorem steps_eq (p : Path) : p.steps
    = (if p.isAbsolute then [.root] else []) ++ (split p.text.toList).map Step.ofPart := by
  rw [steps]
  split <;> rfl

section Join

variable {base : Path} (hbase : base.text ≠ "") (hp : p.isAbsolute = false)

include hbase hp

theorem isAbsolute_join : (base.join p).isAbsolute = base.isAbsolute := by
  obtain ⟨a, ha, hjoin⟩ := exists_join_text hbase hp
  have hne : base.text.toList ≠ [] := fun he => hbase (String.toList_inj.mp he)
  unfold isAbsolute
  rw [hjoin]
  rcases ha with ha | ha
  · rw [ha] at hne ⊢
    rw [List.head?_append, List.head?_eq_some_head hne, Option.some_or]
  · rw [ha]
    cases a <;> rfl

/-- The steps of a joined path are those to the directory, and then those of the path. -/
theorem steps_join : ∃ init, (base.steps = init ∨ base.steps = init ++ [.stay]) ∧
    (base.join p).steps = init ++ p.steps := by
  obtain ⟨a, ha, hjoin⟩ := exists_join_text hbase hp
  refine ⟨(if base.isAbsolute then [.root] else []) ++ (split a).map Step.ofPart, ?_, ?_⟩
  · rw [steps_eq base]
    rcases ha with ha | ha
    · exact .inl (by rw [ha])
    · -- after the slash at the end, the path stays where it is
      refine .inr ?_
      rw [ha, split_append_slash, List.map_append, List.append_assoc]
      rfl
  · rw [steps_eq, isAbsolute_join hbase hp, hjoin, split_append_slash, List.map_append,
      List.append_assoc, steps, hp]
    rfl

/-- Below a directory a path is followed from it. -/
theorem locate_join (h : t.status base = .ok n) : ∃ links above, ∀ last,
    t.locate last (base.join p) =
      if '\x00' ∈ (base.join p).text.toList then .error .zeroInPath
      else if pathLimit < (base.join p).text.utf8ByteSize then .error .tooLong
      else follow t.root last links n above p.steps := by
  obtain ⟨init, hinit, hsteps⟩ := steps_join hbase hp
  have hstart (rest : List Step) : (if base.isAbsolute then rest else t.working.steps ++ rest)
      = (if base.isAbsolute then [] else t.working.steps) ++ rest := by
    split <;> rfl
  have hreached : follow t.root true linkLimit t.root []
      ((if base.isAbsolute then [] else t.working.steps) ++ init) = .ok n := by
    have hall := locate_eq_ok h
    rw [hstart] at hall
    rcases hinit with hinit | hinit
    · rwa [hinit] at hall
    · rw [hinit, ← List.append_assoc] at hall
      exact follow_stay hall
  obtain ⟨links, above, hmore⟩ := (follow_append _ _ _ _).2 _ hreached
  refine ⟨links, above, fun last => ?_⟩
  have hempty : (base.join p).text.isEmpty = false := by
    obtain ⟨a, -, hjoin⟩ := exists_join_text hbase hp
    refine Bool.eq_false_iff.mpr fun he => ?_
    rw [String.isEmpty_iff.mp he] at hjoin
    simp at hjoin
  rw [FileTree.locate, hempty, isAbsolute_join hbase hp, hstart, hsteps, ← List.append_assoc,
    hmore last _ (steps_ne_nil p)]
  rfl

end Join

theorem text_ne_of_status (h : t.status p = .ok n) : p.text ≠ "" := by
  intro hempty
  rw [status, locate, hempty] at h
  simp at h

section Children

variable {name : String}

theorem ofPart_of_isName (h : IsName name) : Step.ofPart name.toList = .into name := by
  have hpart := h.componentOfPart?_eq
  unfold componentOfPart? at hpart
  unfold Step.ofPart
  split at hpart
  · cases hpart
  · next hblank =>
    split at hpart
    · cases hpart
    · next hup => rw [if_neg hblank, if_neg hup, String.ofList_toList]

theorem steps_of_name (h : IsName name) : Path.steps ⟨name⟩ = [.into name] := by
  rw [steps_eq, isAbsolute_of_isName h, split_of_not_mem h.no_slash, List.map_singleton,
    ofPart_of_isName h]
  rfl

/-- What an entry of a directory leads to is the entry, unless it is a link. -/
theorem status_child {entries : List (String × Node)} (hp : t.status p = .ok (.directory entries))
    (h : IsName name) (hlink : ∀ target, Dictionary.find? name entries ≠ some (.link target)) :
    t.status (p.child name) =
      if '\x00' ∈ (p.child name).text.toList then .error .zeroInPath
      else if pathLimit < (p.child name).text.utf8ByteSize then .error .tooLong
      else
        match Dictionary.find? name entries with
        | some n => .ok n
        | none => .error (if nameLimit < name.utf8ByteSize then .tooLong else .absent) := by
  obtain ⟨links, above, hlocate⟩ :=
    locate_join (text_ne_of_status hp) (isAbsolute_of_isName h) hp
  rw [status, child, hlocate, steps_of_name h]
  cases hfind : Dictionary.find? name entries with
  | none => rw [follow, hfind]
  | some n =>
    rw [follow_into hfind fun target he => hlink target (hfind.trans (congrArg some he)), follow]

end Children

end PolicyPack.FileTree
