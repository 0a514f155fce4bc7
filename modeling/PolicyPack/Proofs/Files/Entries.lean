import Mathlib.Data.List.Nodup
import PolicyPack.Proofs.Files.Follow
import PolicyPack.Proofs.Files.Prune

/-!
# Entries of a walk

A walk meets what stands at its root and below it, so names lead from the root to each entry, and
different files have different names.
-/

namespace PolicyPack

open PolicyPack.Path

variable {t : FileTree} {excluded : EntryFilter} {root path : Path} {n : Node}
  {e : WalkEntry} {names : List String} {depth : Nat}

/-! ### Entries of a walk -/

/-- An entry lies below a path to a node by the names that lead to it. -/
structure WalkEntry.LiesBelow (e : WalkEntry) (path : Path) (n : Node) (names : List String) :
    Prop where
  isName : ∀ name ∈ names, IsName name
  path_eq : e.path = path.descend names
  node_eq : n.at? names = some e.node

theorem liesBelow_self (path : Path) (n : Node) : WalkEntry.LiesBelow ⟨path, n⟩ path n [] := by
  cases n <;> exact ⟨nofun, rfl, rfl⟩

theorem WalkEntry.LiesBelow.cons {entries : List (String × Node)} {name : String}
    (hw : (Node.directory entries).WellFormed) (hn : (name, n) ∈ entries)
    (h : e.LiesBelow (path.child name) n names) :
    e.LiesBelow path (.directory entries) (name :: names) := by
  obtain ⟨hsorted, hnames, -⟩ := Node.wellFormed_directory.mp hw
  refine ⟨List.forall_mem_cons.mpr ⟨hnames _ hn, h.isName⟩, h.path_eq, ?_⟩
  rw [Node.at?, hsorted.find?_eq_some.mpr hn]
  exact h.node_eq

theorem exists_mem_of_walkEntries {entries : List (String × Node)}
    (h : e ∈ walkEntries excluded depth path entries) :
    ∃ c ∈ entries, e ∈ c.2.walk excluded depth (path.child c.1) := by
  induction entries with
  | nil => cases h
  | cons c entries ih =>
    rw [walkEntries] at h
    rcases List.mem_append.mp h with h | h
    · exact ⟨c, List.mem_cons_self .., h⟩
    · obtain ⟨d, hd, h⟩ := ih h
      exact ⟨d, List.mem_cons_of_mem _ hd, h⟩

theorem exists_names_of_mem_walk (hw : n.WellFormed) (h : e ∈ n.walk excluded depth path) :
    ∃ names, e.LiesBelow path n names := by
  induction n generalizing depth path with
  | file content =>
    rw [Node.walk] at h
    split at h
    · cases h
    · obtain rfl := List.mem_singleton.mp h
      exact ⟨[], liesBelow_self _ _⟩
  | link target =>
    rw [Node.walk] at h
    split at h
    · cases h
    · obtain rfl := List.mem_singleton.mp h
      exact ⟨[], liesBelow_self _ _⟩
  | directory entries ih =>
    rw [Node.walk] at h
    split at h
    · cases h
    · rcases List.mem_cons.mp h with rfl | h
      · exact ⟨[], liesBelow_self _ _⟩
      · obtain ⟨c, hc, h⟩ := exists_mem_of_walkEntries h
        obtain ⟨names, hnames⟩ := ih c hc ((Node.wellFormed_directory.mp hw).2.2 c hc) h
        exact ⟨_, hnames.cons hw hc⟩

/-- What a walk meets lies below what stands at its root, or below what the root leads to. -/
theorem exists_names_of_walk (ht : t.WellFormed) {entries : List WalkEntry}
    (h : t.walk excluded root = .ok entries) (he : e ∈ entries) :
    ∃ n names, (t.entry root = .ok n ∨ t.status root = .ok n) ∧ e.LiesBelow root n names := by
  unfold FileTree.walk at h
  obtain ⟨n, hn, h⟩ := bind_eq_ok.mp h
  have hself {m : Node} (hm : t.entry root = .ok m) (he : e ∈ m.walk excluded 0 root) :
      ∃ n names, (t.entry root = .ok n ∨ t.status root = .ok n) ∧ e.LiesBelow root n names := by
    obtain ⟨names, hnames⟩ := exists_names_of_mem_walk (ht.locate hm) he
    exact ⟨m, names, .inl hm, hnames⟩
  cases n with
  | file content =>
    cases h
    exact hself hn he
  | directory entries =>
    cases h
    exact hself hn he
  | link target =>
    have hown (he : e ∈ if excluded root false 0 then [] else [⟨root, .link target⟩]) :
        e = ⟨root, .link target⟩ := by
      split at he
      · cases he
      · exact List.mem_singleton.mp he
    obtain ⟨m, hm, h⟩ := bind_eq_ok.mp h
    cases m with
    | file | link =>
      cases h
      obtain rfl := hown he
      exact ⟨_, [], .inl hn, liesBelow_self _ _⟩
    | directory entries =>
      cases h
      rcases List.mem_append.mp he with he | he
      · obtain rfl := hown he
        exact ⟨_, [], .inl hn, liesBelow_self _ _⟩
      rcases List.mem_cons.mp he with rfl | he
      · exact ⟨_, [], .inr hm, liesBelow_self _ _⟩
      · obtain ⟨c, hc, he⟩ := exists_mem_of_walkEntries he
        have hw : (Node.directory entries).WellFormed := ht.locate hm
        obtain ⟨names, hnames⟩ :=
          exists_names_of_mem_walk ((Node.wellFormed_directory.mp hw).2.2 c hc) he
        exact ⟨_, _, .inr hm, hnames.cons hw hc⟩

/-! ### Different files -/

/-- What is opened as a file. -/
def openedFiles {α : Type} (l : List (α × Opening)) : List α :=
  l.filterMap fun o =>
    match o.2 with
    | .file _ => some o.1
    | .directory => none

theorem openedFiles_map {α β : Type} (f : α → β) (l : List (α × Opening)) :
    openedFiles (l.map fun o => (f o.1, o.2)) = (openedFiles l).map f := by
  rw [openedFiles, openedFiles, List.filterMap_map, List.map_filterMap]
  refine congrArg (List.filterMap · l) (funext fun o => ?_)
  obtain ⟨a, o⟩ := o
  cases o <;> rfl

theorem openedFiles_sublist {α : Type} (l : List (α × Opening)) :
    (openedFiles l).Sublist (l.map Prod.fst) := by
  induction l with
  | nil => exact .slnil
  | cons o l ih =>
    obtain ⟨a, o⟩ := o
    cases o with
    | directory => exact ih.cons a
    | file content => exact ih.cons_cons a

/-- A walk meets the files that are opened. -/
theorem openedFiles_walk (entries : List WalkEntry) :
    openedFiles (entries.filterMap WalkEntry.opening?)
      = (entries.filter fun e => e.node.isFile).map WalkEntry.path := by
  induction entries with
  | nil => rfl
  | cons e entries ih =>
    obtain ⟨p, n⟩ := e
    cases n with
    | file content => exact congrArg (p :: ·) ih
    | directory | link => exact ih

theorem Node.nodup_entriesOpenings {entries : List (String × Node)}
    (hsorted : Dictionary.Sorted entries) (h : ∀ e ∈ entries, (e.2.openings.map Prod.fst).Nodup) :
    ((Node.entriesOpenings entries).map Prod.fst).Nodup := by
  induction entries with
  | nil => exact List.nodup_nil
  | cons c entries ih =>
    obtain ⟨name, n⟩ := c
    obtain ⟨hlt, hsorted⟩ := Dictionary.sorted_cons.mp hsorted
    have hfirst : ((n.openings.map Prod.fst).map (name :: ·)).Nodup :=
      (h _ (List.mem_cons_self ..)).map List.cons_injective
    have hrest := ih hsorted fun e he => h e (List.mem_cons_of_mem _ he)
    rw [Node.entriesOpenings, List.map_append, List.map_map, List.nodup_append]
    rw [List.map_map] at hfirst
    refine ⟨hfirst, hrest, fun k hk l hl hkl => ?_⟩
    -- the names begin with those of two entries, and entries of one directory differ in name
    obtain ⟨o, -, rfl⟩ := List.mem_map.mp hk
    obtain ⟨o', ho', rfl⟩ := List.mem_map.mp hl
    obtain ⟨e, he, o', -, rfl⟩ := Node.mem_entriesOpenings.mp ho'
    exact Dictionary.ne_of_lt (hlt e he) (List.cons.inj hkl).1

/-- Nothing below a node is opened twice. -/
theorem Node.nodup_openings (hw : n.WellFormed) : (n.openings.map Prod.fst).Nodup := by
  induction n with
  | file content => simp [openings]
  | link target => simp [openings]
  | directory entries ih =>
    obtain ⟨hsorted, -, hnodes⟩ := wellFormed_directory.mp hw
    have hbelow := nodup_entriesOpenings hsorted fun e he => ih e he (hnodes e he)
    refine List.nodup_cons.mpr ⟨fun hnil => ?_, hbelow⟩
    obtain ⟨o, ho, hnames⟩ := List.mem_map.mp hnil
    exact ne_nil_of_mem_entriesOpenings ho hnames

theorem exists_mem_of_openedFiles {l : List (List String × Opening)}
    (h : names ∈ openedFiles l) : ∃ content, (names, .file content) ∈ l := by
  obtain ⟨⟨k, o⟩, ho, heq⟩ := List.mem_filterMap.mp h
  cases o with
  | directory => cases heq
  | file content =>
    cases heq
    exact ⟨content, ho⟩

end PolicyPack
