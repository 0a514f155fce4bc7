import PolicyPack.Proofs.Sources.Irrelevance

/-!
# Data paths that are excluded

A filter judges the root of a data tree by its base name, as it judges every entry. A file or a
directory that it leaves out adds nothing to a load, whatever is below. A link to a directory does
not follow this rule: it is walked as the directory it leads to, but left out as a link, and leaving
out a link leaves out nothing below it.
-/

namespace PolicyPack

open PolicyPack.Path

/-- The path itself is a link, and what it leads to is a directory. -/
def FileTree.IsDirectoryLink (t : FileTree) (path : Path) : Prop :=
  ∃ target n, t.entry path = .ok (.link target) ∧ t.status path = .ok n ∧ n.isDirectory

variable {t : FileTree} {ignore : IgnoreSet} {root : Path} {n : Node}

/-- Nothing is opened of an excluded root that exists, unless it is a link to a directory. -/
theorem openingsAt_excluded (ht : t.WellFormed) (hn : t.status root = .ok n)
    (hlink : ¬ t.IsDirectoryLink root) (hexcluded : ignore.excludes root = true) :
    openingsAt t ignore.filter root = .ok [] := by
  obtain ⟨m, hm⟩ := FileTree.exists_entry hn
  by_cases htarget : ∃ target, m = .link target
  · obtain ⟨target, rfl⟩ := htarget
    refine openingsAt_link_of_not_directory _ hm hn (Bool.eq_false_iff.mpr fun hdir => ?_)
    exact hlink ⟨target, n, hm, hn, hdir⟩
  · rw [openingsAt_tree ignore ht hm fun target he => htarget ⟨target, he⟩, treeOpenings, hexcluded]
    rfl

theorem addTree_excluded (ht : t.WellFormed) (hn : t.status root = .ok n)
    (hlink : ¬ t.IsDirectoryLink root) (hexcluded : ignore.excludes root = true) (s : SourceSet) :
    addTree t ignore.filter s root = .ok s := by
  rw [addTree, openingsAt_excluded ht hn hlink hexcluded]
  rfl

theorem addTree_link (ht : t.WellFormed) (hlink : t.IsDirectoryLink root)
    (hn : t.status root = .ok n) (s : SourceSet) :
    addTree t ignore.filter s root = (n.openings.filter fun o => ignore.keeps o.1).foldlM
      (fun s o => visit (addTreeFile root) s (root.descend o.1, o.2)) s := by
  obtain ⟨target, m, htarget, hm, hdir⟩ := hlink
  obtain rfl : n = m := Except.ok.inj (hn.symm.trans hm)
  rw [addTree, openingsAt_link ignore ht htarget hn hdir, ok_bind, List.foldlM_map]

/-- An excluded data path that exists can be left out of a load, unless it is a link to a directory.
Such a link adds the files below the directory that are not excluded themselves, as if its own name
were not excluded. -/
theorem load_excluded_root (ht : t.WellFormed) (hn : t.status root = .ok n)
    (hexcluded : ignore.excludes root = true) (before after bundles : List Path) :
    (¬ t.IsDirectoryLink root →
      load t (before ++ root :: after) bundles ignore.filter
        = load t (before ++ after) bundles ignore.filter) ∧
    (t.IsDirectoryLink root →
      load t (before ++ root :: after) bundles ignore.filter = do
        let s ← before.foldlM (addTree t ignore.filter) {}
        let s ← (n.openings.filter fun o => ignore.keeps o.1).foldlM
          (fun s o => visit (addTreeFile root) s (root.descend o.1, o.2)) s
        let s ← after.foldlM (addTree t ignore.filter) s
        bundles.foldlM (addBundle t) s) := by
  constructor
  · intro hlink
    rw [load, load, List.foldlM_append, List.foldlM_append]
    simp only [List.foldlM_cons, addTree_excluded ht hn hlink hexcluded, ok_bind]
  · intro hlink
    rw [load, List.foldlM_append]
    simp only [List.foldlM_cons, addTree_link ht hlink hn, bind_assoc]

/-- A directory with a module, beside a node whose name a pattern excludes. -/
def twoRoots (n : Node) : FileTree where
  root := .directory [("d", .directory [("m.rego", .file "package m".toUTF8)]), ("skip", n)]

theorem wellFormed_twoRoots (hw : n.WellFormed) : (twoRoots n).WellFormed := by
  refine ⟨rfl, Node.wellFormed_of_names ["d", "skip"] rfl (by decide) (by decide) ?_⟩
  simp only [List.forall_mem_cons]
  refine ⟨Node.wellFormed_of_names ["m.rego"] rfl (by decide) (by decide) ?_, hw, nofun⟩
  rw [List.forall_mem_singleton]
  exact .file _

theorem entry_twoRoots (n : Node) : (twoRoots n).entry ⟨"skip"⟩ = .ok n := by
  have hsteps : Path.steps ⟨"skip"⟩ = [.into "skip"] := by decide
  rw [FileTree.entry, FileTree.locate_of_working rfl rfl (by decide), hsteps]
  cases n <;> simp [twoRoots, FileTree.follow, Dictionary.find?]

theorem status_twoRoots_link : (twoRoots (.link ⟨"d"⟩)).status ⟨"skip"⟩
    = .ok (.directory [("m.rego", .file "package m".toUTF8)]) := by
  have hsteps : Path.steps ⟨"skip"⟩ = [.into "skip"] := by decide
  have htarget : Path.steps ⟨"d"⟩ = [.into "d"] := by decide
  rw [FileTree.status, FileTree.locate_of_working rfl rfl (by decide), hsteps]
  simp [twoRoots, FileTree.follow, Dictionary.find?, FileTree.linkLimit, htarget]

/-- A directory of the excluded name is no part of a load, though no module can be read from the
file in it. -/
theorem load_excluded_root_faulty :
    load (twoRoots (.directory [("x.rego", .file "broken".toUTF8)])) [⟨"d"⟩, ⟨"skip"⟩] []
        skipSet.filter
      = load (twoRoots (.directory [("x.rego", .file "broken".toUTF8)])) [⟨"d"⟩] []
        skipSet.filter := by
  have hw : (Node.directory [("x.rego", .file "broken".toUTF8)]).WellFormed := by
    refine Node.wellFormed_of_names ["x.rego"] rfl (by decide) (by decide) ?_
    rw [List.forall_mem_singleton]
    exact .file _
  have hentry := entry_twoRoots (.directory [("x.rego", .file "broken".toUTF8)])
  have hstatus := FileTree.status_of_entry hentry nofun
  refine (load_excluded_root (wellFormed_twoRoots hw) hstatus (by decide +kernel) [⟨"d"⟩] []
    []).1 ?_
  rintro ⟨target, m, hlink, -⟩
  rw [hentry] at hlink
  cases hlink

/-- An excluded link to a directory is loaded with what is below it. -/
theorem load_ne_of_excluded_link :
    (twoRoots (.link ⟨"d"⟩)).WellFormed ∧ (twoRoots (.link ⟨"d"⟩)).IsDirectoryLink ⟨"skip"⟩ ∧
    skipSet.excludes ⟨"skip"⟩ = true ∧
    load (twoRoots (.link ⟨"d"⟩)) [⟨"skip"⟩] [] skipSet.filter
      = .ok { modules := [("m.rego", "package m")] } ∧
    load (twoRoots (.link ⟨"d"⟩)) [] [] skipSet.filter = .ok {} := by
  have ht : (twoRoots (.link ⟨"d"⟩)).WellFormed := wellFormed_twoRoots (.link _)
  have hlink : (twoRoots (.link ⟨"d"⟩)).IsDirectoryLink ⟨"skip"⟩ :=
    ⟨_, _, entry_twoRoots _, status_twoRoots_link, rfl⟩
  have hkeeps : skipSet.keeps ["m.rego"] = true := by decide +kernel
  have hpath : Path.descend ⟨"skip"⟩ ["m.rego"] = ⟨"skip/m.rego"⟩ := by decide
  have hkind : FileKind.ofExtension? ⟨"skip/m.rego"⟩ = some .policy := by decide +kernel
  have htext : sourceText ⟨"skip/m.rego"⟩ "package m".toUTF8 = .ok "package m" :=
    sourceText_eq_ok.mpr ⟨by decide, rfl⟩
  have hkey : moduleKey ⟨"skip"⟩ ⟨"skip/m.rego"⟩ = "m.rego" :=
    (moduleKey_text _ _).trans (by decide)
  obtain ⟨parsed, hparsed⟩ : ∃ parsed, Policy.parseModule "skip/m.rego" "package m" = .ok parsed :=
    exists_ok_of_isSome (by decide +kernel)
  have hfile : visit (addTreeFile ⟨"skip"⟩) {} (⟨"skip/m.rego"⟩, .file "package m".toUTF8)
      = .ok { modules := [("m.rego", "package m")] } := by
    simp only [visit, addTreeFile, hkind, htext, ok_bind, readModule, hparsed, hkey]
    rfl
  have hdirectory : visit (addTreeFile ⟨"skip"⟩) {} (⟨"skip"⟩, .directory) = .ok {} := rfl
  refine ⟨ht, hlink, by decide +kernel, ?_, rfl⟩
  have hopenings : (Node.directory [("m.rego", .file "package m".toUTF8)]).openings.filter
      (fun o => skipSet.keeps o.1)
        = [([], .directory), (["m.rego"], .file "package m".toUTF8)] := by
    have hself : skipSet.keeps [] = true := rfl
    simp [Node.openings, Node.entriesOpenings, hkeeps, hself]
  rw [load_tree, addTree_link ht hlink status_twoRoots_link, hopenings, List.foldlM_cons,
    Path.descend_nil, hdirectory, ok_bind, List.foldlM_cons, hpath, hfile]
  rfl

end PolicyPack
