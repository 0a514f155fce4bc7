import PolicyPack.Proofs.Files.Follow

/-!
# Paths below a directory

A relative path that never steps up stays below the directory it starts from. Where no link stands
below that directory, what the path leads to depends on the directory alone, and not on its own path
or on the tree around it. Only the limit on the length of paths sees the whole path.
-/

namespace PolicyPack

open PolicyPack.Path

/-- No link stands at or below the node. -/
inductive Node.LinkFree : Node → Prop
  | file (content : ByteArray) : LinkFree (.file content)
  | directory {entries : List (String × Node)} (nodes : ∀ e ∈ entries, LinkFree e.2) :
    LinkFree (.directory entries)

namespace Node.LinkFree

theorem ne_link {n : Node} (h : n.LinkFree) (target : Path) : n ≠ .link target := by
  rintro rfl
  cases h

theorem of_find? {entries : List (String × Node)} (h : (Node.directory entries).LinkFree)
    {name : String} {n : Node} (hfind : Dictionary.find? name entries = some n) : n.LinkFree := by
  cases h with
  | directory nodes => exact nodes _ (Dictionary.mem_of_find? hfind)

end Node.LinkFree

/-! ### Inner paths -/

namespace Path

/-- A relative path that never steps up. -/
structure IsInner (p : Path) : Prop where
  relative : p.isAbsolute = false
  no_up : .up ∉ p.components

variable {p : Path}

theorem isInner_iff : p.IsInner ↔ p.isAbsolute = false ∧ .up ∉ p.components :=
  ⟨fun h => ⟨h.1, h.2⟩, fun h => ⟨h.1, h.2⟩⟩

instance : DecidablePred IsInner := fun _ => decidable_of_iff _ isInner_iff.symm

theorem isAbsolute_of_split {part : List Char} {parts : List (List Char)}
    (h : split p.text.toList = [] :: part :: parts) : p.isAbsolute = true := by
  unfold isAbsolute
  cases htext : p.text.toList with
  | nil => simp [htext, split] at h
  | cons c rest =>
    obtain ⟨first, more, hrest⟩ := exists_split rest
    by_cases hc : c = '/'
    · simp [hc]
    · simp [htext, split_cons hc hrest] at h

/-- The components of a relative path are those of its parts, but for a point at the beginning. -/
theorem components_of_relative (hp : p.isAbsolute = false) :
    ∃ first, (first = [] ∨ first = [.here]) ∧
      p.components = first ++ (split p.text.toList).filterMap componentOfPart? := by
  obtain ⟨part, parts, hsplit⟩ := exists_split p.text.toList
  rw [components, hsplit]
  cases part with
  | nil =>
    cases parts with
    | nil => exact ⟨[], .inl rfl, rfl⟩
    | cons part parts =>
      rw [isAbsolute_of_split hsplit] at hp
      cases hp
  | cons c part =>
    by_cases hhere : c :: part = ['.']
    · rw [hhere]
      exact ⟨[.here], .inr rfl, rfl⟩
    · refine ⟨[], .inl rfl, ?_⟩
      rw [componentsOfParts, if_neg hhere, List.filterMap_cons, List.nil_append]
      · cases componentOfPart? (c :: part) <;> rfl
      · exact List.cons_ne_nil c part

namespace IsInner

variable (hp : p.IsInner)

include hp

theorem ne_up {part : List Char} (hpart : part ∈ split p.text.toList) :
    componentOfPart? part ≠ some .up := by
  intro hup
  obtain ⟨first, -, hcomponents⟩ := components_of_relative hp.relative
  refine hp.no_up ?_
  rw [hcomponents]
  exact List.mem_append_right _ (List.mem_filterMap.mpr ⟨part, hpart, hup⟩)

theorem exists_name {c : Component}
    (hc : c ∈ (split p.text.toList).filterMap componentOfPart?) : ∃ name, c = .name name := by
  obtain ⟨part, hpart, hcomponent⟩ := List.mem_filterMap.mp hc
  have hup := hp.ne_up hpart
  unfold componentOfPart? at hcomponent hup
  split at hcomponent
  · cases hcomponent
  · next hblank =>
    split at hcomponent
    · next htwo => exact absurd (by rw [if_neg hblank, if_pos htwo]) hup
    · cases hcomponent
      exact ⟨_, rfl⟩

/-- An inner path stays, or steps into an entry. -/
theorem stay_or_into : ∀ s ∈ p.steps, s = .stay ∨ ∃ name, s = .into name := by
  intro s hs
  rw [steps, hp.relative] at hs
  obtain ⟨part, hpart, rfl⟩ := List.mem_map.mp hs
  have hup := hp.ne_up hpart
  unfold componentOfPart? at hup
  unfold Step.ofPart
  split
  · exact .inl rfl
  · next hblank =>
    split
    · next htwo => exact absurd (by rw [if_neg hblank, if_pos htwo]) hup
    · exact .inr ⟨_, rfl⟩

/-- The last name below a directory is that of the path, or that of the directory if the path has
none. -/
theorem fileName?_join {base : Path} (hbase : base.text ≠ "") :
    (base.join p).fileName? = p.fileName?.or base.fileName? := by
  obtain ⟨first, hfirst, hcomponents⟩ := components_of_relative hp.relative
  have hjoin := components_join hbase hp.relative
  have hnames {c : Component} (hc : c ∈ (split p.text.toList).filterMap componentOfPart?) :=
    hp.exists_name hc
  rcases List.eq_nil_or_concat ((split p.text.toList).filterMap componentOfPart?)
    with hnil | ⟨init, c, hconcat⟩
  · have hnone : p.fileName? = none := by
      rw [fileName?, hcomponents, hnil]
      rcases hfirst with rfl | rfl <;> rfl
    rw [hnone, Option.none_or, fileName?, fileName?, hjoin, hnil, List.append_nil]
  · rw [List.concat_eq_append] at hconcat
    obtain ⟨name, rfl⟩ := hnames (c := c) (by simp [hconcat])
    have hname : p.fileName? = some name := by
      rw [fileName?, hcomponents, hconcat, ← List.append_assoc, List.getLast?_concat]
    rw [hname, Option.some_or, fileName?, hjoin, hconcat, ← List.append_assoc,
      List.getLast?_concat]

end IsInner

/-- Both paths are within the limit on the length of paths, or neither is. -/
def FitAlike (p q : Path) : Prop :=
  FileTree.pathLimit < p.text.utf8ByteSize ↔ FileTree.pathLimit < q.text.utf8ByteSize

instance (p q : Path) : Decidable (p.FitAlike q) := inferInstanceAs (Decidable (_ ↔ _))

theorem le_size_join (base : Path) {p : Path} (hp : p.isAbsolute = false) :
    base.text.utf8ByteSize + p.text.utf8ByteSize ≤ (base.join p).text.utf8ByteSize := by
  unfold join
  rw [hp, Bool.false_or]
  split
  · next hempty => simp [String.isEmpty_iff.mp hempty]
  · split <;> simp only [String.utf8ByteSize_append] <;> omega

theorem size_join_le (base : Path) {p : Path} (hp : p.isAbsolute = false) :
    (base.join p).text.utf8ByteSize ≤ base.text.utf8ByteSize + 1 + p.text.utf8ByteSize := by
  have hslash : "/".utf8ByteSize = 1 := by decide
  unfold join
  rw [hp, Bool.false_or]
  split
  · omega
  · split <;> simp only [String.utf8ByteSize_append, hslash] <;> omega

/-! ### Slashes -/

/-- The path of an entry at the top, with more slashes before it than needed. -/
def slashed (more : Nat) (name : String) : Path :=
  ⟨String.ofList (List.replicate (more + 1) '/' ++ name.toList)⟩

theorem split_slashes (k : Nat) (l : List Char) :
    split (List.replicate k '/' ++ l) = List.replicate k [] ++ split l := by
  induction k with
  | zero => rfl
  | succ k ih =>
    rw [List.replicate_succ, List.cons_append, split_slash, ih]
    rfl

theorem size_slashes (k : Nat) (l : List Char) :
    (String.ofList (List.replicate k '/' ++ l)).utf8ByteSize
      = k + (String.ofList l).utf8ByteSize := by
  induction k with
  | zero => simp
  | succ k ih =>
    have hslash : (String.ofList ['/']).utf8ByteSize = 1 := by decide
    have hcons : List.replicate (k + 1) '/' ++ l = ['/'] ++ (List.replicate k '/' ++ l) := rfl
    rw [hcons, String.ofList_append, String.utf8ByteSize_append, hslash, ih]
    omega

theorem size_slashed (k : Nat) (name : String) :
    (slashed k name).text.utf8ByteSize = k + 1 + name.utf8ByteSize := by
  rw [slashed, size_slashes, String.ofList_toList]

theorem isAbsolute_slashed (k : Nat) (name : String) : (slashed k name).isAbsolute = true := by
  rw [isAbsolute, slashed, String.toList_ofList, List.replicate_succ]
  rfl

end Path

namespace FileTree

/-! ### Steps below a node -/

section Follow

variable {root : Node} {last : Bool} {links : Nat} {n m : Node} {above : List Node}
  {steps : List Step} (hsteps : ∀ s ∈ steps, s = .stay ∨ ∃ name, s = .into name)

include hsteps

/-- Below a node without links, steps that do not lead up depend on nothing but the node. -/
theorem follow_inner (hn : n.LinkFree) (root' : Node) (last' : Bool) (links' : Nat)
    (above' : List Node) :
    follow root last links n above steps = follow root' last' links' n above' steps := by
  induction steps generalizing n above above' with
  | nil => rw [follow, follow]
  | cons step rest ih =>
    obtain ⟨hstep, hrest⟩ := List.forall_mem_cons.mp hsteps
    cases n with
    | link target => exact absurd rfl (hn.ne_link target)
    | file content => rw [follow_below (by simp), follow_below (by simp)]
    | directory entries =>
      rcases hstep with rfl | ⟨name, rfl⟩
      · rw [follow, follow]
        exact ih hrest hn above'
      · cases hfind : Dictionary.find? name entries with
        | none => rw [follow, follow, hfind]
        | some m =>
          have hm := hn.of_find? hfind
          rw [follow_into hfind hm.ne_link, follow_into hfind hm.ne_link]
          exact ih hrest hm _

theorem linkFree_follow (hn : n.LinkFree) (h : follow root last links n above steps = .ok m) :
    m.LinkFree := by
  induction steps generalizing n above with
  | nil =>
    rw [follow] at h
    cases h
    exact hn
  | cons step rest ih =>
    obtain ⟨hstep, hrest⟩ := List.forall_mem_cons.mp hsteps
    cases n with
    | link target => exact absurd rfl (hn.ne_link target)
    | file content =>
      rw [follow_below (by simp)] at h
      cases h
    | directory entries =>
      rcases hstep with rfl | ⟨name, rfl⟩
      · rw [follow] at h
        exact ih hrest hn h
      · cases hfind : Dictionary.find? name entries with
        | none =>
          rw [follow, hfind] at h
          cases h
        | some next =>
          have hnext := hn.of_find? hfind
          rw [follow_into hfind hnext.ne_link] at h
          exact ih hrest hnext h

end Follow

/-! ### Paths below a node -/

variable {t t' : FileTree} {base base' p : Path} {last last' : Bool} {n m : Node}

theorem zero_mem_join (h : t.status base = .ok n) (hp : p.isAbsolute = false) :
    '\x00' ∈ (base.join p).text.toList ↔ '\x00' ∈ p.text.toList := by
  have hzero : '\x00' ∉ base.text.toList := by
    intro hmem
    rw [status, locate, if_pos hmem] at h
    cases h
  obtain ⟨a, ha, hjoin⟩ := exists_join_text (text_ne_of_status h) hp
  have hzero' : '\x00' ∉ a := by
    rcases ha with ha | ha
    · rwa [ha] at hzero
    · rw [ha] at hzero
      exact fun hmem => hzero (List.mem_append_left _ hmem)
  simp [hjoin, hzero']

/-- What an inner path leads to is the same below two paths to the same node. -/
theorem locate_join_eq (h : t.status base = .ok n) (h' : t'.status base' = .ok n)
    (hn : n.LinkFree) (hp : p.IsInner) (hfit : (base.join p).FitAlike (base'.join p)) :
    t.locate last (base.join p) = t'.locate last' (base'.join p) := by
  obtain ⟨links, above, hlocate⟩ := locate_join (text_ne_of_status h) hp.relative h
  obtain ⟨links', above', hlocate'⟩ := locate_join (text_ne_of_status h') hp.relative h'
  have hfollow : follow t.root last links n above p.steps
      = follow t'.root last' links' n above' p.steps :=
    follow_inner hp.stay_or_into hn _ _ _ _
  unfold Path.FitAlike at hfit
  simp only [hlocate, hlocate', zero_mem_join h hp.relative, zero_mem_join h' hp.relative, hfit,
    hfollow]

theorem linkFree_locate (h : t.status base = .ok n) (hn : n.LinkFree) (hp : p.IsInner)
    (hm : t.locate last (base.join p) = .ok m) : m.LinkFree := by
  obtain ⟨links, above, hlocate⟩ := locate_join (text_ne_of_status h) hp.relative h
  rw [hlocate] at hm
  split at hm
  · cases hm
  split at hm
  · cases hm
  · exact linkFree_follow hp.stay_or_into hn hm

/-- A path that leads to a file from a directory ends in a name itself. -/
theorem exists_fileName?_of_join (ht : t.WellFormed) (hbase : base.text ≠ "")
    (hp : p.isAbsolute = false) {content : ByteArray}
    (h : t.locate last (base.join p) = .ok (.file content)) :
    ∃ name, p.fileName? = some name := by
  obtain ⟨name, hname⟩ := exists_into_of_file ht h
  obtain ⟨init, -, hsteps⟩ := steps_join hbase hp
  rw [hsteps, List.getLast?_append] at hname
  have hlast := List.getLast?_eq_some_getLast (steps_ne_nil p)
  rw [hlast, Option.some_or, ← hlast] at hname
  exact ⟨name, fileName?_of_steps hname⟩

/-! ### Slashes -/

theorem follow_stays (root : Node) (last : Bool) (links k : Nat)
    (entries : List (String × Node)) (above : List Node) (rest : List Step) :
    follow root last links (.directory entries) above (List.replicate k .stay ++ rest)
      = follow root last links (.directory entries) above rest := by
  induction k with
  | zero => rfl
  | succ k ih =>
    rw [List.replicate_succ, List.cons_append, follow]
    exact ih

theorem status_slashed {t : FileTree} {entries : List (String × Node)} {n : Node}
    {name : String} {k : Nat} (ht : t.root = .directory entries) (hname : IsName name)
    (hzero : '\x00' ∉ name.toList) (hfind : Dictionary.find? name entries = some n)
    (hn : ∀ target, n ≠ .link target) (hlimit : k + 1 + name.utf8ByteSize ≤ pathLimit) :
    t.status (slashed k name) = .ok n := by
  have habsolute := isAbsolute_slashed k name
  have hsteps : (slashed k name).steps
      = .root :: (List.replicate (k + 1) .stay ++ [.into name]) := by
    have hpart : Step.ofPart [] = .stay := rfl
    rw [steps_eq, habsolute, slashed, String.toList_ofList, split_slashes,
      split_of_not_mem hname.no_slash, List.map_append, List.map_replicate, hpart,
      List.map_singleton, ofPart_of_isName hname]
    rfl
  have hzero' : '\x00' ∉ (slashed k name).text.toList := by
    simp [slashed, hzero]
  have hempty : (slashed k name).text.isEmpty = false := by
    simp [slashed]
  rw [status, locate, if_neg hzero', hempty, if_neg Bool.false_ne_true, size_slashed,
    if_neg (Nat.not_lt.mpr hlimit), habsolute, if_pos rfl, hsteps, ht, follow, follow_stays,
    follow_into hfind hn, follow]

end FileTree

end PolicyPack
