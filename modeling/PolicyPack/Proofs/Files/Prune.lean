import PolicyPack.Proofs.Files.Tree

/-!
# Pruned trees

Links, and entries whose names do not count, can be taken out of directories at any depth. Of what
is left those directories and files are opened on whose way all names count, in the same order.
-/

namespace PolicyPack

/-- Which names count, for directories and for files. -/
structure Selection where
  directory : String → Bool
  file : String → Bool

namespace Selection

/-- Whether an entry counts. A link never does. -/
def counts (s : Selection) (name : String) : Node → Bool
  | .file _ => s.file name
  | .directory _ => s.directory name
  | .link _ => false

/-- Whether the names on the way to a file count. -/
def leadsTo (s : Selection) : List String → Bool
  | [] => true
  | [name] => s.file name
  | name :: names => s.directory name && s.leadsTo names

theorem leadsTo_cons (s : Selection) (name : String) {names : List String} (h : names ≠ []) :
    s.leadsTo (name :: names) = (s.directory name && s.leadsTo names) := leadsTo.eq_3 s name names h

theorem leadsTo_concat (s : Selection) (names : List String) (name : String) :
    s.leadsTo (names ++ [name]) = (names.all s.directory && s.file name) := by
  induction names with
  | nil => simp [leadsTo]
  | cons first names ih =>
    rw [List.cons_append, s.leadsTo_cons first (by simp), ih, List.all_cons, Bool.and_assoc]

/-- Whether the names on the way to what is opened count. -/
def opens (s : Selection) : List String × Opening → Bool
  | (names, .directory) => names.all s.directory
  | (names, .file _) => s.leadsTo names

/-- Below a directory, the name of the directory has to count as well. -/
theorem opens_cons (s : Selection) (name : String) {o : List String × Opening}
    (h : o.1 = [] → o.2 = .directory) :
    s.opens (name :: o.1, o.2) = (s.directory name && s.opens o) := by
  obtain ⟨names, o⟩ := o
  cases o with
  | directory => rfl
  | file content =>
    have hne : names ≠ [] := by
      rintro rfl
      cases h rfl
    exact s.leadsTo_cons name hne

end Selection

namespace Node

mutual

/-- What is left of a node without the entries that do not count. -/
def prune (s : Selection) : Node → Node
  | .file content => .file content
  | .link target => .link target
  | .directory entries => .directory (pruneEntries s entries)

/-- What is left of the entries of a directory. -/
def pruneEntries (s : Selection) : List (String × Node) → List (String × Node)
  | [] => []
  | (name, n) :: rest =>
    if s.counts name n then (name, n.prune s) :: pruneEntries s rest else pruneEntries s rest

end

theorem text_prune (s : Selection) (n : Node) : (n.prune s).text = n.text := by
  cases n <;> rfl

theorem prune_eq_link {s : Selection} {n : Node} {target : Path} :
    n.prune s = .link target ↔ n = .link target := by
  cases n <;> simp [prune]

/-- Only a directory is opened at a directory itself. -/
theorem eq_directory_of_mem_openings {entries : List (String × Node)} {o : List String × Opening}
    (h : o ∈ (directory entries).openings) (hnil : o.1 = []) : o.2 = .directory := by
  rcases List.mem_cons.mp h with rfl | h
  · rfl
  · exact absurd hnil (ne_nil_of_mem_entriesOpenings h)

/-- A file of a directory stands below it. -/
theorem ne_nil_of_mem_openings_file {entries : List (String × Node)} {names : List String}
    {content : ByteArray} (h : (names, .file content) ∈ (directory entries).openings) :
    names ≠ [] := by
  intro hnil
  cases eq_directory_of_mem_openings h hnil

/-- What an entry adds to what is opened of its directory, where the entry is pruned. -/
theorem openings_of_counts (s : Selection) (name : String) {n : Node}
    (h : (n.prune s).openings = n.openings.filter s.opens) :
    (n.openings.map fun o => (name :: o.1, o.2)).filter s.opens
      = if s.counts name n then (n.prune s).openings.map fun o => (name :: o.1, o.2) else [] := by
  rw [List.filter_map]
  cases n with
  | file content =>
    cases hf : s.file name <;>
      simp [openings, prune, Selection.counts, Selection.opens, Selection.leadsTo, hf]
  | link target => rfl
  | directory entries =>
    have hopens : ∀ o ∈ openings (directory entries),
        (s.opens ∘ fun o => (name :: o.1, o.2)) o = (s.directory name && s.opens o) :=
      fun o ho => s.opens_cons name (eq_directory_of_mem_openings ho)
    rw [h, Selection.counts, List.filter_congr hopens]
    cases s.directory name <;> simp

theorem entriesOpenings_pruneEntries (s : Selection) {entries : List (String × Node)}
    (h : ∀ e ∈ entries, (e.2.prune s).openings = e.2.openings.filter s.opens) :
    entriesOpenings (pruneEntries s entries) = (entriesOpenings entries).filter s.opens := by
  induction entries with
  | nil => rfl
  | cons e entries ih =>
    obtain ⟨name, n⟩ := e
    have hrest := ih fun e he => h e (List.mem_cons_of_mem _ he)
    rw [pruneEntries, entriesOpenings, List.filter_append,
      openings_of_counts s name (h _ (List.mem_cons_self ..)), ← hrest]
    cases s.counts name n with
    | true => rw [if_pos rfl, if_pos rfl, entriesOpenings]
    | false => simp

/-- Of a pruned node that is opened on whose way the names count. -/
theorem openings_prune (s : Selection) (n : Node) :
    (n.prune s).openings = n.openings.filter s.opens := by
  induction n with
  | file content => rfl
  | link target => rfl
  | directory entries ih =>
    exact congrArg (([], Opening.directory) :: ·) (entriesOpenings_pruneEntries s ih)

end Node

end PolicyPack
