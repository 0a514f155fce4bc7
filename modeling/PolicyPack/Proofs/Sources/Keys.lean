import PolicyPack.Proofs.Files.Entries
import PolicyPack.Proofs.Sources.Narrowing

/-!
# Keys below a root

The names which lead to an entry from the root of a walk make its keys, however the root is spelled.
Names that are text make different keys if they differ, so no two modules of one data path share a
key. Names that are not text can be read alike.
-/

namespace PolicyPack

open PolicyPack.Path

variable {t : FileTree} {excluded : EntryFilter} {root : Path} {n : Node}

/-! ### Different files -/

/-- Below one root no two files have the same key. -/
theorem nodup_moduleKeys (hw : n.WellFormed) (root : Path) :
    ((openedFiles n.openings).map fun names => moduleKey root (root.descend names)).Nodup := by
  cases n with
  | file content => simp [Node.openings, openedFiles]
  | link target => simp [Node.openings, openedFiles]
  | directory entries =>
    have hnodup := (Node.nodup_openings hw).sublist (openedFiles_sublist _)
    refine List.Nodup.map_on (fun names h names' h' hkey => ?_) hnodup
    obtain ⟨content, hopened⟩ := exists_mem_of_openedFiles h
    obtain ⟨content', hopened'⟩ := exists_mem_of_openedFiles h'
    have hnames := Node.isName_of_mem_openings hw hopened
    have hnames' := Node.isName_of_mem_openings hw hopened'
    have hne := Node.ne_nil_of_mem_openings_file hopened
    have hne' := Node.ne_nil_of_mem_openings_file hopened'
    rw [moduleKey_descend root hnames hne, moduleKey_descend root hnames' hne'] at hkey
    exact intercalate_injective hnames hnames' hne hne' hkey

theorem treeOpenings_sublist (ignore : IgnoreSet) (root : Path) (n : Node) :
    (treeOpenings ignore root n).Sublist n.openings := by
  unfold treeOpenings
  split
  · exact List.nil_sublist _
  · exact List.filter_sublist

/-- What is opened of a root lies below one node. -/
theorem exists_openings_sublist (ht : t.WellFormed) {l : List (Path × Opening)}
    (h : openingsAt t excluded root = .ok l) : ∃ n : Node, n.WellFormed ∧
      l.Sublist (n.openings.map fun o => (root.descend o.1, o.2)) := by
  have hwithin : EntryFilter.none.Within excluded := nofun
  -- a filter that leaves something out meets some of what is met where nothing is left out
  have hsublist {l' : List (Path × Opening)} (hl' : openingsAt t EntryFilter.none root = .ok l') :
      l.Sublist l' := by
    obtain ⟨l'', hl'', hsub⟩ := openingsAt_sublist hwithin hl'
    rwa [Except.ok.inj (h.symm.trans hl'')]
  cases hn : t.entry root with
  | error f =>
    rw [openingsAt, FileTree.walk, hn] at h
    cases h
  | ok n =>
    by_cases hlink : ∃ target, n = .link target
    · obtain ⟨target, rfl⟩ := hlink
      cases hm : t.status root with
      | error f =>
        rw [openingsAt, FileTree.walk, hn, ok_bind] at h
        simp only [hm, error_bind] at h
        cases h
      | ok m =>
        cases hdir : m.isDirectory with
        | true => exact ⟨m, ht.locate hm, hsublist (openingsAt_bundle ht hm hdir)⟩
        | false =>
          have hnone := openingsAt_link_of_not_directory EntryFilter.none hn hm hdir
          exact ⟨m, ht.locate hm, (hsublist hnone).trans (List.nil_sublist _)⟩
    · have hall := openingsAt_tree IgnoreSet.empty ht hn fun target he => hlink ⟨target, he⟩
      rw [IgnoreSet.filter_empty] at hall
      exact ⟨n, ht.locate hn, (hsublist hall).trans ((treeOpenings_sublist _ _ _).map _)⟩

theorem nodup_keys_of_openingsAt (ht : t.WellFormed) {l : List (Path × Opening)}
    (h : openingsAt t excluded root = .ok l) : ((openedFiles l).map (moduleKey root)).Nodup := by
  obtain ⟨n, hn, hsub⟩ := exists_openings_sublist ht h
  have hfiles : (openedFiles l).Sublist ((openedFiles n.openings).map root.descend) := by
    rw [← openedFiles_map]
    exact hsub.filterMap _
  have hkeys := hfiles.map (moduleKey root)
  rw [List.map_map] at hkeys
  exact (nodup_moduleKeys hn root).sublist hkeys

/-! ### Loading -/

variable {s u : SourceSet} {f : Path × ByteArray} {key : String}

/-- Reading a file is no reason to find its key in use. -/
theorem treeAddition_ne_duplicate (root : Path) (f : Path × ByteArray) (key : String) :
    treeAddition root f ≠ .error (.load (.duplicateModule key)) := by
  have htext : sourceText f.1 f.2 ≠ .error (.load (.duplicateModule key)) := by
    unfold sourceText
    split <;> simp
  have hmodule (source : String) :
      readModule f.1 source ≠ .error (.load (.duplicateModule key)) := by
    unfold readModule
    split <;> simp
  have hdoc (format : DataFormat) (text : String) :
      readDocument f.1 format text ≠ .error (.load (.duplicateModule key)) := by
    unfold readDocument
    split <;> split <;> simp
  intro h
  unfold treeAddition at h
  split at h
  · cases h
  · rcases bind_eq_error.mp h with h | ⟨source, -, h⟩
    · exact htext h
    · rcases bind_eq_error.mp h with h | ⟨parsed, -, h⟩
      · exact hmodule _ h
      · cases h
  · rcases bind_eq_error.mp h with h | ⟨text, -, h⟩
    · exact htext h
    · rcases bind_eq_error.mp h with h | ⟨doc, -, h⟩
      · exact hdoc _ _ h
      · cases h

theorem withData_ne_duplicate (s : SourceSet) (keys : List String) (doc : Json.Value)
    (origin : Path) (key : String) :
    s.withData keys doc origin ≠ .error (.load (.duplicateModule key)) := by
  unfold SourceSet.withData SourceSet.mergeData
  cases nestUnder keys doc with
  | object entries =>
    simp only
    cases mergeEntries s.data entries with
    | mk data conflict => cases conflict <;> simp
  | _ => simp

/-- A file changes no module but that of its own key. -/
theorem find?_addTreeFile (h : addTreeFile root s f = .ok u) (hne : moduleKey root f.1 ≠ key) :
    Dictionary.find? key u.modules = Dictionary.find? key s.modules := by
  rw [addTreeFile_eq] at h
  obtain ⟨l, hl, h⟩ := bind_eq_ok.mp h
  have hadds := fileAdds_treeAddition hl
  generalize FileKind.ofExtension? f.1 = kind at hadds
  cases hadds with
  | nothing =>
    cases h
    rfl
  | module =>
    rw [foldlM_apply_singleton] at h
    obtain ⟨-, rfl⟩ := SourceSet.addModule_eq_ok.mp h
    exact Dictionary.find?_insert_of_ne hne _ _
  | document =>
    rw [foldlM_apply_singleton] at h
    obtain ⟨data, -, rfl⟩ := SourceSet.withData_eq_ok.mp h
    rfl

/-- A file whose key is free is not refused for its key. -/
theorem addTreeFile_ne_duplicate (hfree : Dictionary.find? (moduleKey root f.1) s.modules = none) :
    addTreeFile root s f ≠ .error (.load (.duplicateModule key)) := by
  intro h
  rw [addTreeFile_eq] at h
  rcases bind_eq_error.mp h with h | ⟨l, hl, h⟩
  · exact treeAddition_ne_duplicate _ _ _ h
  · have hadds := fileAdds_treeAddition hl
    generalize FileKind.ofExtension? f.1 = kind at hadds
    cases hadds with
    | nothing => cases h
    | module =>
      rw [foldlM_apply_singleton, Addition.apply, SourceSet.addModule, hfree] at h
      cases h
    | document =>
      rw [foldlM_apply_singleton] at h
      exact withData_ne_duplicate _ _ _ _ _ h

/-- The keys of files differ, and none of them is in use. -/
structure KeysFree (root : Path) (l : List (Path × Opening)) (s : SourceSet) : Prop where
  nodup : ((openedFiles l).map (moduleKey root)).Nodup
  free : ∀ p ∈ openedFiles l, Dictionary.find? (moduleKey root p) s.modules = none

theorem openDirectory_ne_duplicate (p : Path) (key : String) :
    openDirectory p ≠ .error (.load (.duplicateModule key)) := by
  unfold openDirectory
  split <;> simp

theorem foldlM_visit_ne_duplicate {l : List (Path × Opening)} (h : KeysFree root l s) :
    l.foldlM (visit (addTreeFile root)) s ≠ .error (.load (.duplicateModule key)) := by
  refine foldlM_ne_error (KeysFree root) (fun o l s u hs hu => ?_) (fun o l s hs => ?_) h
  · obtain ⟨p, o⟩ := o
    cases o with
    | directory =>
      obtain ⟨_, -, hu⟩ := bind_eq_ok.mp hu
      cases hu
      exact ⟨hs.nodup, hs.free⟩
    | file content =>
      obtain ⟨hkey, hnodup⟩ := List.nodup_cons.mp hs.nodup
      refine ⟨hnodup, fun q hq => ?_⟩
      have hne : moduleKey root p ≠ moduleKey root q := fun he =>
        hkey (List.mem_map.mpr ⟨q, hq, he.symm⟩)
      rw [find?_addTreeFile hu hne]
      exact hs.free q (List.mem_cons_of_mem _ hq)
  · obtain ⟨p, o⟩ := o
    cases o with
    | directory =>
      intro hfault
      rcases bind_eq_error.mp hfault with hfault | ⟨_, -, hfault⟩
      · exact openDirectory_ne_duplicate p key hfault
      · cases hfault
    | file content => exact addTreeFile_ne_duplicate (hs.free p (List.mem_cons_self ..))

theorem load_ne_duplicate (ht : t.WellFormed) (excluded : EntryFilter) (root : Path)
    (key : String) :
    load t [root] [] excluded ≠ .error (.load (.duplicateModule key)) := by
  intro h
  rw [load_tree, addTree] at h
  rcases bind_eq_error.mp h with h | ⟨l, hl, h⟩
  · unfold openingsAt at h
    split at h <;> cases h
  · exact foldlM_visit_ne_duplicate ⟨nodup_keys_of_openingsAt ht hl, fun _ _ => rfl⟩ h

/-- Below a path of bytes, different names that are text make different keys. -/
theorem names_eq_of_keyOfBytes (base : Path) {names names' : List String}
    (h : ∀ name ∈ names, IsName name) (h' : ∀ name ∈ names', IsName name) (hne : names ≠ [])
    (hne' : names' ≠ [])
    (heq : keyOfBytes base (base.descend (names.map Text.encode))
      = keyOfBytes base (base.descend (names'.map Text.encode))) : names = names' := by
  have hkey {names : List String} (h : ∀ name ∈ names, IsName name) (hne : names ≠ []) :
      keyOfBytes base (base.descend (names.map Text.encode)) = "/".intercalate names := by
    have hnames : ∀ name ∈ names.map String.toUTF8, IsName (Text.ofBytes name) :=
      List.forall_mem_map.mpr fun name hname => isName_encode (h name hname)
    have hbytes := keyOfBytes_descend base hnames (by simpa using hne)
    rw [List.map_map, List.map_map] at hbytes
    refine hbytes.trans (congrArg ("/".intercalate ·) ?_)
    exact (List.map_congr_left fun name _ => Text.ofUtf8Lenient_toUTF8 name).trans
      (List.map_id names)
  rw [hkey h hne, hkey h' hne'] at heq
  exact intercalate_injective h h' hne hne' heq

/-- However a root is spelled, the key of a module below it is made of the names that lead there,
and so are the keys of a document; the names are read from their bytes. A root that is a file is
known by its own name. Names that are text make different keys if they differ, so in a tree, whose
names are text, no two files of a root share a key, and a load of one data path never finds a key in
use. -/
theorem keys_below_root (ht : t.WellFormed) (excluded : EntryFilter) (root : Path) :
    (∀ (base : Path) (names : List ByteArray), (∀ name ∈ names, IsName (Text.ofBytes name)) →
      names ≠ [] →
        keyOfBytes base (base.descend (names.map Text.ofBytes))
            = "/".intercalate (names.map Text.ofUtf8Lenient) ∧
          directoryKeysOfBytes base (base.descend (names.map Text.ofBytes))
            = names.dropLast.map Text.ofUtf8Lenient) ∧
    (∀ (base : Path) (name : ByteArray), base.fileName? = some (Text.ofBytes name) →
      keyOfBytes base base = Text.ofUtf8Lenient name ∧ directoryKeysOfBytes base base = []) ∧
    (∀ (base : Path) (names names' : List String), (∀ name ∈ names, IsName name) →
      (∀ name ∈ names', IsName name) → names ≠ [] → names' ≠ [] →
        keyOfBytes base (base.descend (names.map Text.encode))
          = keyOfBytes base (base.descend (names'.map Text.encode)) → names = names') ∧
    (∀ entries, t.walk excluded root = .ok entries →
      (∀ e ∈ entries, ∃ n names, (t.entry root = .ok n ∨ t.status root = .ok n) ∧
        e.LiesBelow root n names ∧
        (names ≠ [] → moduleKey root e.path = "/".intercalate names ∧
          directoryKeys root e.path = names.dropLast) ∧
        (names = [] → ∀ content, e.node = .file content →
          root.fileName? = some (moduleKey root e.path) ∧ directoryKeys root e.path = [])) ∧
      ((entries.filter fun e => e.node.isFile).map fun e => moduleKey root e.path).Nodup) ∧
    ∀ key, load t [root] [] excluded ≠ .error (.load (.duplicateModule key)) := by
  refine ⟨fun base names hnames hne => ?_, fun base name hname => ?_, ?_,
    fun entries hwalk => ⟨fun e he => ?_, ?_⟩, load_ne_duplicate ht excluded root⟩
  · exact ⟨keyOfBytes_descend base hnames hne, directoryKeysOfBytes_descend base hnames⟩
  · exact ⟨keyOfBytes_self hname, directoryKeysOfBytes_self base⟩
  · exact fun base names names' => names_eq_of_keyOfBytes base
  · obtain ⟨n, names, hn, hbelow⟩ := exists_names_of_walk ht hwalk he
    obtain ⟨hnames, hpath, hnode⟩ := hbelow
    refine ⟨n, names, hn, ⟨hnames, hpath, hnode⟩, fun hne => ?_, ?_⟩
    · rw [hpath]
      exact ⟨moduleKey_descend root hnames hne, directoryKeys_descend root hnames⟩
    · rintro rfl content hcontent
      rw [hcontent, Node.at?] at hnode
      cases hnode
      obtain ⟨name, hname⟩ : ∃ name, root.fileName? = some name := by
        obtain ⟨name, hlast⟩ := hn.elim (FileTree.exists_into_of_file ht)
          (FileTree.exists_into_of_file ht)
        exact ⟨name, FileTree.fileName?_of_steps hlast⟩
      rw [hpath]
      refine ⟨?_, directoryKeys_descend root hnames⟩
      rw [descend_nil, moduleKey_self hname, hname]
  · have hopenings : openingsAt t excluded root = .ok (entries.filterMap WalkEntry.opening?) := by
      rw [openingsAt, hwalk]
    have hnodup := nodup_keys_of_openingsAt ht hopenings
    rwa [openedFiles_walk, List.map_map] at hnodup

theorem keys_below_root_spelled : ∃ entries,
    smallTree.walk EntryFilter.none ⟨"./b//"⟩ = .ok entries ∧
    ((entries.filter fun e => e.node.isFile).map fun e => moduleKey ⟨"./b//"⟩ e.path)
      = [".manifest", "m.rego", "x.json"] ∧
    ((entries.filter fun e => e.node.isFile).map fun e => moduleKey ⟨"./b//"⟩ e.path).Nodup ∧
    load smallTree [⟨"./b//"⟩] [] EntryFilter.none
      ≠ .error (.load (.duplicateModule "m.rego")) := by
  have hsteps : Path.steps ⟨"./b//"⟩ = [.stay, .into "b", .stay, .stay] := by decide
  have hentry : smallTree.entry ⟨"./b//"⟩ = .ok (.directory [(".manifest", .file "\x7b\x7d".toUTF8),
      ("m.rego", .file "package a".toUTF8), ("x.json", .file "\x7b\"y\":1\x7d".toUTF8)]) := by
    rw [FileTree.entry, FileTree.locate_of_working rfl rfl (by decide), hsteps]
    simp [smallTree, bundleTree, FileTree.follow, Dictionary.find?]
  obtain ⟨-, -, -, hentries, hload⟩ :=
    keys_below_root wellFormed_smallTree EntryFilter.none ⟨"./b//"⟩
  have hwalk : ∃ entries, smallTree.walk EntryFilter.none ⟨"./b//"⟩ = .ok entries ∧
      ((entries.filter fun e => e.node.isFile).map fun e => moduleKey ⟨"./b//"⟩ e.path)
        = [".manifest", "m.rego", "x.json"] := by
    rw [FileTree.walk, hentry]
    refine ⟨_, rfl, ?_⟩
    simp only [moduleKey_text]
    rfl
  obtain ⟨entries, hwalk, hkeys⟩ := hwalk
  exact ⟨entries, hwalk, hkeys, (hentries entries hwalk).2, hload "m.rego"⟩

/-! ### Names that are not text -/

/-- The bytes of a name of a module that are text but for one. -/
def strayName (stray : UInt8) : ByteArray := ⟨#[0x61, stray, 0x2e, 0x72, 0x65, 0x67, 0x6f]⟩

/-- The path of bytes of the module below `t`. -/
def strayPath (stray : UInt8) : Path := child ⟨"t"⟩ (Text.ofBytes (strayName stray))

/-- Two modules that differ in the stray byte of their names. -/
def strayEntries : List (String × Node) :=
  [(0xfe : UInt8), 0xff].map fun stray =>
    (Text.ofBytes (strayName stray), .file "package a".toUTF8)

/-- A tree whose names hold the bytes of names. -/
def strayTree : FileTree where
  root := .directory [("t", .directory strayEntries)]

/-- A byte that begins no character is read as the replacement character. -/
theorem ofUtf8Lenient_strayName {stray : UInt8} (h : stray ∈ [(0xfe : UInt8), 0xff]) :
    Text.ofUtf8Lenient (strayName stray) = "a\ufffd.rego" := by
  have hfirst : ∀ stray ∈ [(0xfe : UInt8), 0xff], ∀ r,
      Text.firstPiece stray r = (.illFormed 1, r) := by
    simp [Text.firstPiece, Text.lead?]
  have hrest : Text.pieces [0x2e, 0x72, 0x65, 0x67, 0x6f] = ['.', 'r', 'e', 'g', 'o'].map .char :=
    Text.pieces_flatMap ['.', 'r', 'e', 'g', 'o']
  rw [Text.ofUtf8Lenient, Text.toList_bytes, strayName, Text.pieces,
    Text.firstPiece_one (by decide), Text.pieces, hfirst stray h, hrest]
  rfl

theorem isName_strayName :
    ∀ stray ∈ [(0xfe : UInt8), 0xff], IsName (Text.ofBytes (strayName stray)) := by
  decide +kernel

theorem keyOfBytes_strayPath {stray : UInt8} (h : stray ∈ [(0xfe : UInt8), 0xff]) :
    keyOfBytes ⟨"t"⟩ (strayPath stray) = "a\ufffd.rego" := by
  have hname : ∀ name ∈ [strayName stray], IsName (Text.ofBytes name) :=
    List.forall_mem_singleton.mpr (isName_strayName stray h)
  rw [← ofUtf8Lenient_strayName h]
  exact (keyOfBytes_descend ⟨"t"⟩ hname (List.cons_ne_nil _ _)).trans String.intercalate_singleton

theorem wellFormed_strayTree : strayTree.WellFormed := by
  refine ⟨rfl, Node.wellFormed_of_names ["t"] rfl (by decide) (by decide) ?_⟩
  rw [List.forall_mem_singleton]
  refine Node.wellFormed_of_names
    ([(0xfe : UInt8), 0xff].map fun stray => Text.ofBytes (strayName stray)) rfl
    (by decide +kernel) (List.forall_mem_map.mpr isName_strayName) ?_
  exact List.forall_mem_map.mpr fun stray _ => .file _

theorem walk_strayTree : strayTree.walk EntryFilter.none ⟨"t"⟩
    = .ok [⟨⟨"t"⟩, .directory strayEntries⟩, ⟨strayPath 0xfe, .file "package a".toUTF8⟩,
      ⟨strayPath 0xff, .file "package a".toUTF8⟩] := by
  have hsteps : Path.steps ⟨"t"⟩ = [.into "t"] := by decide
  have hentry : strayTree.entry ⟨"t"⟩ = .ok (.directory strayEntries) := by
    rw [FileTree.entry, FileTree.locate_of_working rfl rfl (by decide), hsteps]
    simp [strayTree, FileTree.follow, Dictionary.find?]
  rw [FileTree.walk, hentry]
  rfl

theorem exists_module_strayPath {stray : UInt8} (h : stray ∈ [(0xfe : UInt8), 0xff]) :
    ∃ m, readModule (strayPath stray) "package a" = .ok m := by
  have hparsed : ∀ stray ∈ [(0xfe : UInt8), 0xff],
      (Policy.parseModule (strayPath stray).text "package a").toOption.isSome := by
    decide +kernel
  obtain ⟨m, hm⟩ := exists_ok_of_isSome (hparsed stray h)
  exact ⟨m, readModule_eq_ok.mpr hm⟩

/-- Names that are not text can be read alike: a walk meets two modules that have one key, and they
cannot both be added. -/
theorem keys_of_bytes_clash :
    strayTree.WellFormed ∧ strayName 0xfe ≠ strayName 0xff ∧
    strayTree.walk EntryFilter.none ⟨"t"⟩ = .ok [⟨⟨"t"⟩, .directory strayEntries⟩,
      ⟨strayPath 0xfe, .file "package a".toUTF8⟩, ⟨strayPath 0xff, .file "package a".toUTF8⟩] ∧
    (∀ stray ∈ [(0xfe : UInt8), 0xff],
      FileKind.ofExtension? (strayPath stray) = some .policy ∧
      (∃ m, readModule (strayPath stray) "package a" = .ok m) ∧
      keyOfBytes ⟨"t"⟩ (strayPath stray) = "a\ufffd.rego") ∧
    assemble ([(0xfe : UInt8), 0xff].map fun stray =>
        .module (keyOfBytes ⟨"t"⟩ (strayPath stray)) "package a")
      = .error (.load (.duplicateModule "a\ufffd.rego")) := by
  have hkind : ∀ stray ∈ [(0xfe : UInt8), 0xff],
      FileKind.ofExtension? (strayPath stray) = some .policy := by
    decide +kernel
  refine ⟨wellFormed_strayTree, by decide +kernel, walk_strayTree, fun stray h =>
    ⟨hkind stray h, exists_module_strayPath h, keyOfBytes_strayPath h⟩, ?_⟩
  rw [List.map_cons, List.map_cons, List.map_nil, keyOfBytes_strayPath (by simp),
    keyOfBytes_strayPath (by simp)]
  rfl

end PolicyPack
