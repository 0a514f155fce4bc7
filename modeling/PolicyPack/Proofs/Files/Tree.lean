import PolicyPack.Ignore
import PolicyPack.Proofs.Dictionary
import PolicyPack.Proofs.Files.Names
import PolicyPack.Proofs.Outcome

/-!
# Well-formed trees

The directories of a well-formed tree are sorted by name, and their entries have names. So what is
opened below a node is what certain names lead to, and a walk opens the directories and files of the
node in order, but for those with an excluded name on the way.
-/

namespace PolicyPack

open PolicyPack.Path

namespace Node

/-- Induction on a node, with a hypothesis for each entry of a directory. -/
@[elab_as_elim, induction_eliminator]
theorem induction {motive : Node → Prop} (file : ∀ content, motive (.file content))
    (directory : ∀ entries, (∀ e ∈ entries, motive e.2) → motive (.directory entries))
    (link : ∀ target, motive (.link target)) (n : Node) : motive n :=
  @Node.rec motive (fun l => ∀ e ∈ l, motive e.2) (fun e => motive e.2) file directory link
    (by simp) (fun _ _ he hr f hf => (List.mem_cons.mp hf).elim (fun h => h ▸ he) (hr f))
    (fun _ _ h => h) n

/-- Directories are sorted by name, and their entries have names that entries can have. -/
inductive WellFormed : Node → Prop
  | file (content : ByteArray) : WellFormed (.file content)
  | link (target : Path) : WellFormed (.link target)
  | directory {entries : List (String × Node)} (sorted : Dictionary.Sorted entries)
    (names : ∀ e ∈ entries, IsName e.1) (nodes : ∀ e ∈ entries, WellFormed e.2) :
    WellFormed (.directory entries)

theorem wellFormed_directory {entries : List (String × Node)} :
    (directory entries).WellFormed ↔ Dictionary.Sorted entries ∧ (∀ e ∈ entries, IsName e.1) ∧
      ∀ e ∈ entries, e.2.WellFormed :=
  ⟨fun | .directory sorted names nodes => ⟨sorted, names, nodes⟩,
    fun ⟨sorted, names, nodes⟩ => .directory sorted names nodes⟩

theorem wellFormed_of_names {entries : List (String × Node)} (names : List String)
    (heq : entries.map Prod.fst = names) (hsorted : names.Pairwise (· < ·))
    (hnames : ∀ name ∈ names, IsName name) (nodes : ∀ e ∈ entries, e.2.WellFormed) :
    (directory entries).WellFormed := by
  subst heq
  exact .directory (List.pairwise_map.mp hsorted) (List.forall_mem_map.mp hnames) nodes

/-- The node that names lead to, where no link stands on the way. -/
def at? : Node → List String → Option Node
  | n, [] => some n
  | .directory entries, name :: names => (Dictionary.find? name entries).bind (·.at? names)
  | _, _ :: _ => none

theorem at?_singleton (name : String) (entries : List (String × Node)) :
    (directory entries).at? [name] = Dictionary.find? name entries := by
  rw [at?]
  cases Dictionary.find? name entries <;> rfl

mutual

/-- What is opened at and below a node, in the order of a walk, with the names that lead there. -/
def openings : Node → List (List String × Opening)
  | .file content => [([], .file content)]
  | .link _ => []
  | .directory entries => ([], .directory) :: entriesOpenings entries

/-- What is opened at and below the entries of a directory. -/
def entriesOpenings : List (String × Node) → List (List String × Opening)
  | [] => []
  | (name, n) :: rest => n.openings.map (fun o => (name :: o.1, o.2)) ++ entriesOpenings rest

end

theorem mem_entriesOpenings {entries : List (String × Node)} {o : List String × Opening} :
    o ∈ entriesOpenings entries ↔ ∃ e ∈ entries, ∃ o' ∈ e.2.openings, (e.1 :: o'.1, o'.2) = o := by
  induction entries with
  | nil => simp [entriesOpenings]
  | cons e entries ih => simp [entriesOpenings, ih]

theorem ne_nil_of_mem_entriesOpenings {entries : List (String × Node)}
    {o : List String × Opening} (h : o ∈ entriesOpenings entries) : o.1 ≠ [] := by
  obtain ⟨e, -, o', -, rfl⟩ := mem_entriesOpenings.mp h
  exact List.cons_ne_nil _ _

/-- What is opened is what names lead to, but for links. -/
theorem mem_openings {n : Node} (hw : n.WellFormed) {names : List String} {o : Opening} :
    (names, o) ∈ n.openings ↔ (n.at? names).bind opening? = some o := by
  induction n generalizing names with
  | file content => cases names <;> simp [openings, at?, opening?, eq_comm]
  | link target => cases names <;> simp [openings, at?, opening?]
  | directory entries ih =>
    obtain ⟨hsorted, -, hnodes⟩ := wellFormed_directory.mp hw
    rw [openings, List.mem_cons]
    cases names with
    | nil =>
      have hbelow : ([], o) ∉ entriesOpenings entries := fun h =>
        ne_nil_of_mem_entriesOpenings h rfl
      simp [at?, opening?, hbelow, eq_comm]
    | cons name names =>
      rw [or_iff_right (by simp), mem_entriesOpenings, at?, Option.bind_assoc,
        Option.bind_eq_some_iff]
      constructor
      · rintro ⟨⟨k, n⟩, he, ⟨names', o'⟩, ho, heq⟩
        cases heq
        exact ⟨n, hsorted.find?_eq_some.mpr he, (ih _ he (hnodes _ he)).mp ho⟩
      · rintro ⟨n, hn, ho⟩
        have he := hsorted.find?_eq_some.mp hn
        exact ⟨(name, n), he, (names, o), (ih _ he (hnodes _ he)).mpr ho, rfl⟩

theorem opening?_eq_file {n : Node} {content : ByteArray} :
    n.opening? = some (.file content) ↔ n = .file content := by
  cases n <;> simp [opening?]

/-- The files that are opened are those that names lead to. -/
theorem mem_openings_file {n : Node} (hw : n.WellFormed) {names : List String}
    {content : ByteArray} :
    (names, .file content) ∈ n.openings ↔ n.at? names = some (.file content) := by
  simp [mem_openings hw, Option.bind_eq_some_iff, opening?_eq_file]

theorem mem_openings_directory {n : Node} (hw : n.WellFormed) {names : List String} :
    (names, .directory) ∈ n.openings ↔ ∃ entries, n.at? names = some (.directory entries) := by
  rw [mem_openings hw, Option.bind_eq_some_iff]
  constructor
  · rintro ⟨m, hm, hopening⟩
    cases m with
    | directory entries => exact ⟨entries, hm⟩
    | file | link => cases hopening
  · rintro ⟨entries, hentries⟩
    exact ⟨_, hentries, rfl⟩

theorem isName_of_mem_openings {n : Node} (hw : n.WellFormed) {o : List String × Opening}
    (h : o ∈ n.openings) : ∀ name ∈ o.1, IsName name := by
  induction n generalizing o with
  | file content => simp_all [openings]
  | link target => simp [openings] at h
  | directory entries ih =>
    obtain ⟨-, hnames, hnodes⟩ := wellFormed_directory.mp hw
    rcases List.mem_cons.mp h with rfl | h
    · simp
    · obtain ⟨e, he, o', ho', rfl⟩ := mem_entriesOpenings.mp h
      exact List.forall_mem_cons.mpr ⟨hnames e he, ih e he (hnodes e he) ho'⟩

end Node

/-! ### Walks -/

/-- No pattern matches any of the names. -/
def IgnoreSet.keeps (s : IgnoreSet) (names : List String) : Bool :=
  names.all fun name => !s.matchesName name

theorem IgnoreSet.excludes_child (s : IgnoreSet) (p : Path) {name : String} (h : IsName name) :
    s.excludes (p.child name) = s.matchesName name := by
  rw [excludes, fileName?_child p h]
  rfl

/-- What a walk opens below the entries of a directory, from what it opens below each. -/
theorem opened_walkEntries (s : IgnoreSet) (depth : Nat) (path : Path)
    {entries : List (String × Node)} (hnames : ∀ e ∈ entries, IsName e.1)
    (h : ∀ e ∈ entries, ∀ p : Path, (e.2.walk s.filter depth p).filterMap WalkEntry.opening?
      = if s.excludes p then [] else
        (e.2.openings.filter fun o => s.keeps o.1).map fun o => (p.descend o.1, o.2)) :
    (walkEntries s.filter depth path entries).filterMap WalkEntry.opening?
      = ((Node.entriesOpenings entries).filter fun o => s.keeps o.1).map
        fun o => (path.descend o.1, o.2) := by
  induction entries with
  | nil => rfl
  | cons e entries ih =>
    obtain ⟨name, n⟩ := e
    have hrest := ih (fun e he => hnames e (List.mem_cons_of_mem _ he))
      fun e he => h e (List.mem_cons_of_mem _ he)
    have hfirst := h _ (List.mem_cons_self ..) (path.child name)
    rw [s.excludes_child path (hnames _ (List.mem_cons_self ..))] at hfirst
    rw [walkEntries, List.filterMap_append, hfirst, hrest, Node.entriesOpenings,
      List.filter_append, List.map_append, List.filter_map, List.map_map]
    congr 1
    cases hm : s.matchesName name with
    | true => simp [IgnoreSet.keeps, Function.comp_def, hm]
    | false => simp [IgnoreSet.keeps, Function.comp_def, hm]

/-- A walk opens what stands below its root with no excluded entry on the way. -/
theorem opened_walk (s : IgnoreSet) {n : Node} (hw : n.WellFormed) (depth : Nat) (path : Path) :
    (n.walk s.filter depth path).filterMap WalkEntry.opening? = if s.excludes path then [] else
      (n.openings.filter fun o => s.keeps o.1).map fun o => (path.descend o.1, o.2) := by
  induction n generalizing depth path with
  | file content =>
    rw [Node.walk, IgnoreSet.filter]
    split <;> rfl
  | link target =>
    rw [Node.walk, IgnoreSet.filter]
    split <;> rfl
  | directory entries ih =>
    obtain ⟨-, hnames, hnodes⟩ := Node.wellFormed_directory.mp hw
    have hbelow := opened_walkEntries s (depth + 1) path hnames
      fun e he p => ih e he (hnodes e he) (depth + 1) p
    rw [Node.walk, IgnoreSet.filter]
    split
    · rfl
    · -- the directory itself is opened first, and no name leads to it
      exact congrArg ((path, Opening.directory) :: ·) hbelow

end PolicyPack
