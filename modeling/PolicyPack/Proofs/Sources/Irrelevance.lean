import PolicyPack.Proofs.Files.Prune
import PolicyPack.Proofs.Sources.RootFiles

/-!
# What a load does not look at

A load looks neither at links, nor at excluded entries and what is below them, nor at files of no
kind. So trees that differ only in these load alike, with the same result or the same fault. The one
way around this is a bundle's manifest that is a link, which may lead anywhere.
-/

namespace PolicyPack

open PolicyPack.Path

/-! ### What counts -/

/-- The names that count below a data path: those that are not excluded, and for files only those
that stand for a kind. -/
def IgnoreSet.selection (s : IgnoreSet) : Selection where
  directory name := !s.matchesName name
  file name := !s.matchesName name && (FileKind.ofExtension? ⟨name⟩).isSome

/-- The names that count in a bundle. -/
def bundleSelection : Selection where
  directory _ := true
  file name := (FileKind.ofBundleName? name).isSome

/-- What counts of a node at a data path. -/
def relevant? (ignore : IgnoreSet) (root : Path) : Node → Option Node
  | .file content =>
    if !ignore.excludes root && (FileKind.ofExtension? root).isSome then some (.file content)
    else none
  | n => if ignore.excludes root then none else some (n.prune ignore.selection)

variable {t t' : FileTree} {ignore : IgnoreSet} {root dir : Path} {n : Node}

theorem leadsTo_selection (ignore : IgnoreSet) (names : List String) (name : String) :
    ignore.selection.leadsTo (names ++ [name])
      = (ignore.keeps (names ++ [name]) && (FileKind.ofExtension? ⟨name⟩).isSome) := by
  simp [Selection.leadsTo_concat, IgnoreSet.selection, IgnoreSet.keeps, Bool.and_assoc]

theorem leadsTo_bundleSelection (names : List String) (name : String) :
    bundleSelection.leadsTo (names ++ [name]) = (FileKind.ofBundleName? name).isSome := by
  simp [Selection.leadsTo_concat, bundleSelection]

theorem addTreeFile_of_none {p : Path} {content : ByteArray} (h : FileKind.ofExtension? p = none)
    (s : SourceSet) : addTreeFile root s (p, content) = .ok s := by
  rw [addTreeFile_eq, treeAddition_of_none h]
  rfl

theorem addBundleFile_of_none {m : BundleManifest} {p : Path} {content : ByteArray}
    (h : p.fileName?.bind FileKind.ofBundleName? = none) (s : SourceSet) :
    addBundleFile m dir s (p, content) = .ok s := by
  rw [addBundleFile_eq, bundleAddition_of_none h]
  rfl

/-- The way to a file below a directory ends in a name. -/
theorem exists_concat_of_mem_openings {entries : List (String × Node)}
    (hw : (Node.directory entries).WellFormed) {names : List String} {content : ByteArray}
    (h : (names, .file content) ∈ (Node.directory entries).openings) :
    ∃ init name, names = init ++ [name] ∧ ∀ p : Path, (p.descend names).fileName? = some name := by
  rcases List.eq_nil_or_concat names with hnil | ⟨init, name, hconcat⟩
  · exact absurd hnil (Node.ne_nil_of_mem_openings_file h)
  · rw [List.concat_eq_append] at hconcat
    have hnames := Node.isName_of_mem_openings hw h
    refine ⟨init, name, hconcat, fun p => ?_⟩
    rw [fileName?_descend hnames, lastName?, hconcat, List.getLast?_concat]
    rfl

/-- What is opened below a directory and counts is not excluded. -/
theorem filter_opens_selection {entries : List (String × Node)}
    (hw : (Node.directory entries).WellFormed) :
    (Node.directory entries).openings.filter ignore.selection.opens
      = ((Node.directory entries).openings.filter fun o => ignore.keeps o.1).filter
        ignore.selection.opens := by
  rw [List.filter_filter]
  refine List.filter_congr fun o ho => ?_
  obtain ⟨names, o⟩ := o
  cases o with
  | directory => exact (Bool.and_self _).symm
  | file content =>
    obtain ⟨init, name, rfl, -⟩ := exists_concat_of_mem_openings hw ho
    rw [Selection.opens, leadsTo_selection]
    cases ignore.keeps (init ++ [name]) <;> simp

/-- A data tree adds what counts of it. -/
theorem addTree_eq (ht : t.WellFormed) (hn : t.entry root = .ok n)
    (hlink : ∀ target, n ≠ .link target) (s : SourceSet) :
    addTree t ignore.filter s root = ((relevant? ignore root n).elim [] Node.openings).foldlM
      (fun s o => visit (addTreeFile root) s (root.descend o.1, o.2)) s := by
  rw [addTree, openingsAt_tree ignore ht hn hlink, ok_bind, List.foldlM_map, treeOpenings]
  cases hexcluded : ignore.excludes root with
  | true => cases n <;> simp [relevant?, hexcluded]
  | false =>
    cases n with
    | link target => exact absurd rfl (hlink target)
    | file content =>
      have hself : (Node.file content).openings.filter (fun o => ignore.keeps o.1)
          = [([], .file content)] := rfl
      rw [if_neg Bool.false_ne_true, hself]
      cases hkind : FileKind.ofExtension? root with
      | some kind => simp [relevant?, hexcluded, hkind, Node.openings]
      | none => simp [relevant?, hexcluded, hkind, visit, addTreeFile_of_none hkind]
    | directory entries =>
      have hw := ht.locate hn
      have hrelevant : relevant? ignore root (.directory entries)
          = some ((Node.directory entries).prune ignore.selection) := by
        simp [relevant?, hexcluded]
      rw [hrelevant, Option.elim_some, Node.openings_prune, filter_opens_selection hw,
        foldlM_filter]
      · rfl
      · -- what is kept and does not count is a file of no kind
        rintro ⟨names, o⟩ ho hopens s
        obtain ⟨hmem, hkeeps⟩ := List.mem_filter.mp ho
        cases o with
        | directory => exact Bool.noConfusion (hkeeps.symm.trans hopens)
        | file content =>
          obtain ⟨init, name, rfl, hname⟩ := exists_concat_of_mem_openings hw hmem
          rw [Selection.opens, leadsTo_selection, hkeeps, Bool.true_and,
            Option.isSome_eq_false_iff, Option.isNone_iff_eq_none,
            ← ofExtension?_eq (hname root)] at hopens
          exact addTreeFile_of_none hopens s

/-- A bundle adds what counts of it. -/
theorem addBundle_eq (ht : t.WellFormed) (hn : t.status dir = .ok n) (hdir : n.isDirectory)
    (s : SourceSet) :
    addBundle t s dir = readManifest t dir >>= fun m =>
      (n.prune bundleSelection).openings.foldlM
        (fun s o => visit (addBundleFile m dir) s (dir.descend o.1, o.2)) s >>= fun s =>
          .ok (s.addBundle m) := by
  cases n with
  | file | link => cases hdir
  | directory entries =>
    have hw := ht.locate hn
    rw [addBundle, openingsAt_bundle ht hn hdir]
    refine bind_congr fun m => ?_
    rw [ok_bind, List.foldlM_map, Node.openings_prune, foldlM_filter]
    · rfl
    · rintro ⟨names, o⟩ ho hopens s
      cases o with
      | directory => simp [Selection.opens, bundleSelection] at hopens
      | file content =>
        obtain ⟨init, name, rfl, hname⟩ := exists_concat_of_mem_openings hw ho
        rw [Selection.opens, leadsTo_bundleSelection, Option.isSome_eq_false_iff,
          Option.isNone_iff_eq_none] at hopens
        exact addBundleFile_of_none (by rw [hname dir]; exact hopens) s

/-! ### Trees that agree -/

/-- Two trees agree at a data path if it leads to a file or a directory in both, and what counts of
it is the same. -/
def AgreeOnData (t t' : FileTree) (ignore : IgnoreSet) (root : Path) : Prop :=
  ∃ n n', t.entry root = .ok n ∧ t'.entry root = .ok n' ∧ (∀ target, n ≠ .link target) ∧
    (∀ target, n' ≠ .link target) ∧ relevant? ignore root n = relevant? ignore root n'

/-- Two trees agree at a bundle if it is a directory in neither, or in both, and then what counts of
it is the same, and so is its manifest. -/
inductive AgreeOnBundle (t t' : FileTree) (dir : Path) : Prop
  | neither (h : t.isDirectory dir = false) (h' : t'.isDirectory dir = false)
  | both {n n' : Node} (hn : t.status dir = .ok n) (hn' : t'.status dir = .ok n')
    (hdir : n.isDirectory) (hdir' : n'.isDirectory)
    (below : n.prune bundleSelection = n'.prune bundleSelection)
    (manifest : (n.at? [".manifest"]).map (Node.prune bundleSelection)
      = (n'.at? [".manifest"]).map (Node.prune bundleSelection))

/-- A path reads the same in both trees. -/
structure ReadsSame (t t' : FileTree) (p : Path) : Prop where
  hasPath : t.hasPath p = t'.hasPath p
  readText : t.readText p = t'.readText p

/-- If the manifest of a bundle is a link, it reads the same in both trees. -/
def LinkReadsSame (t t' : FileTree) (dir : Path) : Prop :=
  ∀ n target, t.status dir = .ok n → n.at? [".manifest"] = some (.link target) →
    ReadsSame t t' (dir.child ".manifest")

theorem readManifest_congr (hdir : t.isDirectory dir = t'.isDirectory dir)
    (h : ReadsSame t t' (dir.child ".manifest")) : readManifest t dir = readManifest t' dir := by
  obtain ⟨hpath, htext⟩ := h
  rw [child] at hpath htext
  simp only [readManifest, hdir, hpath, htext]

/-- A manifest that is no link reads the same if it is the same, but for what does not count below
it. -/
theorem readsSame_manifest {entries entries' : List (String × Node)}
    (hn : t.status dir = .ok (.directory entries)) (hn' : t'.status dir = .ok (.directory entries'))
    (hmanifest : (Dictionary.find? ".manifest" entries).map (Node.prune bundleSelection)
      = (Dictionary.find? ".manifest" entries').map (Node.prune bundleSelection))
    (hlink : ∀ target, Dictionary.find? ".manifest" entries ≠ some (.link target)) :
    ReadsSame t t' (dir.child ".manifest") := by
  have hname : IsName ".manifest" := by decide
  have hlink' : ∀ target, Dictionary.find? ".manifest" entries' ≠ some (.link target) := by
    intro target hfind
    rw [hfind, Option.map_some, Option.map_eq_some_iff] at hmanifest
    obtain ⟨m, hm, hprune⟩ := hmanifest
    exact hlink target (hm.trans (congrArg some (Node.prune_eq_link.mp hprune)))
  have hstatus := FileTree.status_child hn hname hlink
  have hstatus' := FileTree.status_child hn' hname hlink'
  -- following fails in both trees for a reason they share, or reaches nodes with the same text
  suffices h : (∃ f, t.status (dir.child ".manifest") = .error f ∧
      t'.status (dir.child ".manifest") = .error f) ∨
    ∃ m m', t.status (dir.child ".manifest") = .ok m ∧
      t'.status (dir.child ".manifest") = .ok m' ∧ m.text = m'.text by
    rcases h with ⟨f, hf, hf'⟩ | ⟨m, m', hm, hm', htext⟩
    · exact ⟨by simp [FileTree.hasPath, hf, hf'], by simp [FileTree.readText, hf, hf']⟩
    · exact ⟨by simp [FileTree.hasPath, hm, hm'], by simp [FileTree.readText, hm, hm', htext]⟩
  rw [hstatus, hstatus']
  split
  · exact .inl ⟨_, rfl, rfl⟩
  split
  · exact .inl ⟨_, rfl, rfl⟩
  cases hm : Dictionary.find? ".manifest" entries with
  | none =>
    rw [hm, Option.map_none, eq_comm, Option.map_eq_none_iff] at hmanifest
    rw [hmanifest]
    exact .inl ⟨_, rfl, rfl⟩
  | some m =>
    rw [hm, Option.map_some, eq_comm, Option.map_eq_some_iff] at hmanifest
    obtain ⟨m', hm', hprune⟩ := hmanifest
    rw [hm']
    refine .inr ⟨m, m', rfl, rfl, ?_⟩
    rw [← Node.text_prune bundleSelection m, ← hprune, Node.text_prune]

theorem addBundle_congr (ht : t.WellFormed) (ht' : t'.WellFormed) (h : AgreeOnBundle t t' dir)
    (hlink : LinkReadsSame t t' dir) (s : SourceSet) : addBundle t s dir = addBundle t' s dir := by
  cases h with
  | neither h h' =>
    rw [addBundle, addBundle, readManifest_of_not_directory h, readManifest_of_not_directory h']
    rfl
  | @both n n' hn hn' hdir hdir' hbelow hmanifest =>
    have hm : readManifest t dir = readManifest t' dir := by
      refine readManifest_congr ?_ ?_
      · rw [FileTree.isDirectory_of_status hn, FileTree.isDirectory_of_status hn', hdir, hdir']
      · by_cases hmlink : ∃ target, n.at? [".manifest"] = some (.link target)
        · obtain ⟨target, htarget⟩ := hmlink
          exact hlink n target hn htarget
        · cases n with
          | file | link => cases hdir
          | directory entries =>
            cases n' with
            | file | link => cases hdir'
            | directory entries' =>
              rw [Node.at?_singleton, Node.at?_singleton] at hmanifest
              rw [Node.at?_singleton] at hmlink
              exact readsSame_manifest hn hn' hmanifest fun target he => hmlink ⟨target, he⟩
    rw [addBundle_eq ht hn hdir, addBundle_eq ht' hn' hdir', hm, hbelow]

/-- Trees that agree load alike. -/
theorem load_eq_of_agree (ht : t.WellFormed) (ht' : t'.WellFormed) {data bundles : List Path}
    (hdata : ∀ root ∈ data, AgreeOnData t t' ignore root)
    (hbundles : ∀ dir ∈ bundles, AgreeOnBundle t t' dir)
    (hlinks : ∀ dir ∈ bundles, LinkReadsSame t t' dir) :
    load t data bundles ignore.filter = load t' data bundles ignore.filter := by
  have htrees (s : SourceSet) : data.foldlM (addTree t ignore.filter) s
      = data.foldlM (addTree t' ignore.filter) s := by
    refine foldlM_congr (fun root hroot s => ?_) s
    obtain ⟨n, n', hn, hn', hlink, hlink', hrelevant⟩ := hdata root hroot
    rw [addTree_eq ht hn hlink, addTree_eq ht' hn' hlink', hrelevant]
  have hbundles (s : SourceSet) : bundles.foldlM (addBundle t) s
      = bundles.foldlM (addBundle t') s :=
    foldlM_congr (fun dir hdir => addBundle_congr ht ht' (hbundles dir hdir) (hlinks dir hdir)) s
  rw [load, load, htrees]
  exact bind_congr hbundles

/-- A tree with a data path and a bundle, in each of which there is a node that may not count. -/
def noisyTree (hidden note : Node) : FileTree where
  root := .directory [
    ("b", .directory [(".manifest", .file "\x7b\x7d".toUTF8), ("note.txt", note)]),
    ("d", .directory [("a.json", .file "\x7b\x7d".toUTF8), ("skip", hidden)])]

/-- The set whose one pattern is a name. -/
def skipSet : IgnoreSet where
  entries := [("skip", ⟨"skip", [.literal 's', .literal 'k', .literal 'i', .literal 'p']⟩)]

theorem wellFormed_noisyTree {hidden note : Node} (hhidden : hidden.WellFormed)
    (hnote : note.WellFormed) : (noisyTree hidden note).WellFormed := by
  refine ⟨rfl, Node.wellFormed_of_names ["b", "d"] rfl (by decide) (by decide) ?_⟩
  simp only [List.forall_mem_cons]
  refine ⟨?_, ?_, nofun⟩
  · refine Node.wellFormed_of_names [".manifest", "note.txt"] rfl (by decide) (by decide) ?_
    simp only [List.forall_mem_cons]
    exact ⟨.file _, hnote, nofun⟩
  · refine Node.wellFormed_of_names ["a.json", "skip"] rfl (by decide) (by decide) ?_
    simp only [List.forall_mem_cons]
    exact ⟨.file _, hhidden, nofun⟩

theorem status_noisyTree (hidden note : Node) : (noisyTree hidden note).status ⟨"b"⟩
    = .ok (.directory [(".manifest", .file "\x7b\x7d".toUTF8), ("note.txt", note)]) := by
  have hsteps : Path.steps ⟨"b"⟩ = [.into "b"] := by decide
  rw [FileTree.status, FileTree.locate_of_working rfl rfl (by decide), hsteps]
  simp [noisyTree, FileTree.follow, Dictionary.find?]

theorem entry_noisyTree (hidden note : Node) : (noisyTree hidden note).entry ⟨"d"⟩
    = .ok (.directory [("a.json", .file "\x7b\x7d".toUTF8), ("skip", hidden)]) := by
  have hsteps : Path.steps ⟨"d"⟩ = [.into "d"] := by decide
  rw [FileTree.entry, FileTree.locate_of_working rfl rfl (by decide), hsteps]
  simp [noisyTree, FileTree.follow, Dictionary.find?]

theorem load_eq_of_agree_noisy :
    load (noisyTree (.directory [("x.rego", .file "broken".toUTF8)]) (.file "one".toUTF8)) [⟨"d"⟩]
        [⟨"b"⟩] skipSet.filter
      = load (noisyTree (.file "two".toUTF8) (.link ⟨"/d"⟩)) [⟨"d"⟩] [⟨"b"⟩] skipSet.filter := by
  have hskip : skipSet.matchesName "skip" = true := by decide +kernel
  have hroot : skipSet.excludes ⟨"d"⟩ = false := by decide +kernel
  have hnote : FileKind.ofBundleName? "note.txt" = none := by decide +kernel
  have hhidden : (Node.directory [("x.rego", .file "broken".toUTF8)]).WellFormed := by
    refine Node.wellFormed_of_names ["x.rego"] rfl (by decide) (by decide) ?_
    rw [List.forall_mem_singleton]
    exact .file _
  refine load_eq_of_agree (wellFormed_noisyTree hhidden (.file _))
    (wellFormed_noisyTree (.file _) (.link _)) ?_ ?_ ?_
  · rw [List.forall_mem_singleton]
    refine ⟨_, _, entry_noisyTree _ _, entry_noisyTree _ _, nofun, nofun, ?_⟩
    simp [relevant?, hroot, Node.prune, Node.pruneEntries, Selection.counts, IgnoreSet.selection,
      hskip]
  · rw [List.forall_mem_singleton]
    refine .both (status_noisyTree _ _) (status_noisyTree _ _) rfl rfl ?_ rfl
    simp [Node.prune, Node.pruneEntries, Selection.counts, bundleSelection, hnote]
  · rw [List.forall_mem_singleton]
    intro n target hn hlink
    rw [status_noisyTree] at hn
    cases hn
    cases hlink

/-- A tree with a bundle whose manifest is a link to a file that does not count. -/
def linkedTree (text : String) : FileTree where
  root := .directory [
    ("b", .directory [(".manifest", .link ⟨"m.txt"⟩), ("m.txt", .file text.toUTF8)])]

theorem wellFormed_linkedTree (text : String) : (linkedTree text).WellFormed := by
  refine ⟨rfl, Node.wellFormed_of_names ["b"] rfl (by decide) (by decide) ?_⟩
  rw [List.forall_mem_singleton]
  refine Node.wellFormed_of_names [".manifest", "m.txt"] rfl (by decide) (by decide) ?_
  simp only [List.forall_mem_cons]
  exact ⟨.link _, .file _, nofun⟩

theorem status_linkedTree (text : String) : (linkedTree text).status ⟨"b"⟩
    = .ok (.directory [(".manifest", .link ⟨"m.txt"⟩), ("m.txt", .file text.toUTF8)]) := by
  have hsteps : Path.steps ⟨"b"⟩ = [.into "b"] := by decide
  rw [FileTree.status, FileTree.locate_of_working rfl rfl (by decide), hsteps]
  simp [linkedTree, FileTree.follow, Dictionary.find?]

theorem status_linkedTree_manifest (text : String) :
    (linkedTree text).status ⟨"b/.manifest"⟩ = .ok (.file text.toUTF8) := by
  have hsteps : Path.steps ⟨"b/.manifest"⟩ = [.into "b", .into ".manifest"] := by decide
  have htarget : Path.steps ⟨"m.txt"⟩ = [.into "m.txt"] := by decide
  rw [FileTree.status, FileTree.locate_of_working rfl rfl (by decide), hsteps]
  simp [linkedTree, FileTree.follow, Dictionary.find?, FileTree.linkLimit, htarget]

theorem load_linkedTree (text : String) {m : BundleManifest}
    (hm : BundleManifest.ofText text = .ok m) (excluded : EntryFilter) :
    load (linkedTree text) [] [⟨"b"⟩] excluded = .ok { bundles := [m] } := by
  have hpath : Path.join ⟨"b"⟩ ⟨".manifest"⟩ = ⟨"b/.manifest"⟩ := by decide
  have hmanifest : readManifest (linkedTree text) ⟨"b"⟩ = .ok m := by
    simp only [readManifest, FileTree.isDirectory, FileTree.hasPath, FileTree.readText, hpath,
      status_linkedTree, status_linkedTree_manifest, Node.isDirectory, ok_bind, Node.text_file, hm]
    rfl
  have hkind : FileKind.ofBundleName? "m.txt" = none := by decide +kernel
  have hopen : openDirectory ⟨"b"⟩ = .ok () := rfl
  rw [load, List.foldlM_nil, pure_bind, List.foldlM_cons,
    addBundle_eq (wellFormed_linkedTree text) (status_linkedTree text) rfl, hmanifest]
  simp [Node.prune, Node.pruneEntries, Selection.counts, bundleSelection, hkind, Node.openings,
    Node.entriesOpenings, visit, hopen, SourceSet.addBundle]

/-- Trees that agree, but for the file that the link to a manifest leads to, need not load alike. -/
theorem load_ne_of_linked_manifest :
    (linkedTree "\x7b\"revision\":\"1\"\x7d").WellFormed ∧
    (linkedTree "\x7b\"revision\":\"2\"\x7d").WellFormed ∧
    AgreeOnBundle (linkedTree "\x7b\"revision\":\"1\"\x7d")
      (linkedTree "\x7b\"revision\":\"2\"\x7d") ⟨"b"⟩ ∧
    load (linkedTree "\x7b\"revision\":\"1\"\x7d") [] [⟨"b"⟩] IgnoreSet.empty.filter
      ≠ load (linkedTree "\x7b\"revision\":\"2\"\x7d") [] [⟨"b"⟩] IgnoreSet.empty.filter := by
  have hkind : FileKind.ofBundleName? "m.txt" = none := by decide +kernel
  have hone := load_linkedTree "\x7b\"revision\":\"1\"\x7d"
    (m := { revision := "1" }) rfl IgnoreSet.empty.filter
  have htwo := load_linkedTree "\x7b\"revision\":\"2\"\x7d"
    (m := { revision := "2" }) rfl IgnoreSet.empty.filter
  refine ⟨wellFormed_linkedTree _, wellFormed_linkedTree _, ?_, ?_⟩
  · refine .both (status_linkedTree _) (status_linkedTree _) rfl rfl ?_ rfl
    simp [Node.prune, Node.pruneEntries, Selection.counts, bundleSelection, hkind]
  · rw [hone, htwo]
    simp

end PolicyPack
