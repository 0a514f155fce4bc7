import PolicyPack.Proofs.Sources.RootFiles

/-!
# What is loaded

A load takes in every file that it should and nothing else. The modules stand for the module files
of the data paths and the bundles, one for each, and what is seen in the data is what is seen of the
documents, each under the names of its directories.
-/

namespace PolicyPack

open Json PolicyPack.Path

/-! ### Origins -/

/-- Where a file is found: below which data path or bundle, with its number, and by which names. -/
inductive Origin where
  | data (i : Nat) (root : Path) (names : List String)
  | bundle (i : Nat) (dir : Path) (names : List String)

namespace Origin

/-- The data path or the bundle. -/
def root : Origin → Path
  | data _ root _ => root
  | bundle _ dir _ => dir

/-- The names that lead to the file. -/
def names : Origin → List String
  | data _ _ names => names
  | bundle _ _ names => names

/-- The key of the module in the file. -/
def key (o : Origin) : String := fileKey o.root o.names

/-- The names of the directories that lead to the file. -/
def directories (o : Origin) : List String := o.names.dropLast

/-- The number of the root among all data paths and then all bundles. -/
def position (count : Nat) : Origin → Nat
  | data i _ _ => i
  | bundle i _ _ => count + i

end Origin

/-- A load finds a file of some kind: below a data path, with no excluded entry on the way, its kind
being that of its extension; or in a bundle, its kind being that of its name. -/
inductive Finds (t : FileTree) (ignore : IgnoreSet) (data bundles : List Path) :
    Origin → Option FileKind → ByteArray → Prop
  | data {i : Nat} {root : Path} {n : Node} {names : List String} {name : String}
    {content : ByteArray} (hroot : data[i]? = some root) (hn : t.entry root = .ok n)
    (hkept : ignore.excludes root = false) (hfile : n.at? names = some (.file content))
    (hnames : ∀ k ∈ names, ignore.matchesName k = false)
    (hname : lastName? root names = some name) :
    Finds t ignore data bundles (.data i root names) (FileKind.ofExtension? ⟨name⟩) content
  | bundle {i : Nat} {dir : Path} {n : Node} {names : List String} {name : String}
    {content : ByteArray} (hdir : bundles[i]? = some dir) (hn : t.status dir = .ok n)
    (hfile : n.at? names = some (.file content)) (hname : names.getLast? = some name) :
    Finds t ignore data bundles (.bundle i dir names) (FileKind.ofBundleName? name) content

/-- The manifest in a directory: what its manifest file says, or nothing if there is none. -/
def ManifestIn (t : FileTree) (dir : Path) (m : BundleManifest) : Prop :=
  (t.hasPath (dir.child ".manifest") = false ∧ m = {}) ∨
    ∃ text, t.readText (dir.child ".manifest") = .ok text ∧ BundleManifest.ofText text = .ok m

variable {t : FileTree} {ignore : IgnoreSet} {data bundles : List Path} {s : SourceSet}

/-! ### Additions by root -/

/-- What a load adds at a position: what the data path there adds, or the bundle. -/
def AddsAt (t : FileTree) (ignore : IgnoreSet) (data bundles : List Path) (position : Nat)
    (l : List Addition) : Prop :=
  (∃ root, data[position]? = some root ∧ treeAdditions t ignore.filter root = .ok l) ∨
    ∃ i dir m, position = data.length + i ∧ bundles[i]? = some dir ∧
      bundleAdditions t dir = .ok (m, l)

theorem tree_additions {root : Path} {n : Node} {l : List Addition} (ht : t.WellFormed)
    (hn : t.entry root = .ok n) (hlink : ∀ target, n ≠ .link target)
    (h : treeAdditions t ignore.filter root = .ok l) :
    ∃ r, (treeOpenings ignore root n).mapM
      (fun o => openingAddition (treeAddition root) (root.descend o.1, o.2)) = .ok r ∧
        l = r.flatten := by
  rw [treeAdditions, openingsAt_tree ignore ht hn hlink, ok_bind, List.mapM_map] at h
  obtain ⟨r, hr, h⟩ := bind_eq_ok.mp h
  cases h
  exact ⟨r, hr, rfl⟩

theorem readManifest_eq_ok {dir : Path} {m : BundleManifest} (h : readManifest t dir = .ok m) :
    (∃ n, t.status dir = .ok n ∧ n.isDirectory) ∧ ManifestIn t dir m := by
  rw [← FileTree.isDirectory_eq_true]
  unfold readManifest at h
  cases hdir : t.isDirectory dir with
  | false =>
    simp only [hdir, Bool.not_false, if_true, throw_eq_error, error_bind] at h
    cases h
  | true =>
    refine ⟨rfl, ?_⟩
    simp only [hdir, Bool.not_true, Bool.false_eq_true, if_false, pure_eq_ok] at h
    split at h
    · next hnone =>
      cases h
      exact .inl ⟨by simpa [child] using hnone, rfl⟩
    · split at h
      · cases h
      · next text htext =>
        split at h
        · next hm =>
          cases h
          exact .inr ⟨text, htext, hm⟩
        · cases h

theorem bundle_additions {dir : Path} {m : BundleManifest} {l : List Addition} (ht : t.WellFormed)
    (h : bundleAdditions t dir = .ok (m, l)) :
    ∃ n r, t.status dir = .ok n ∧ n.isDirectory ∧
      n.openings.mapM (fun o => openingAddition (bundleAddition m dir) (dir.descend o.1, o.2))
        = .ok r ∧ l = r.flatten := by
  obtain ⟨hm, openings, r, hopenings, hr, rfl⟩ := bundleAdditions_eq_ok.mp h
  obtain ⟨⟨n, hn, hdir⟩, -⟩ := readManifest_eq_ok hm
  rw [openingsAt_bundle ht hn hdir] at hopenings
  cases hopenings
  rw [List.mapM_map] at hr
  exact ⟨n, r, hn, hdir, hr, rfl⟩

/-- What a file that is found adds is among what its root adds. -/
theorem exists_of_finds (ht : t.WellFormed)
    (hdata : ∀ root ∈ data, ∀ target, t.entry root ≠ .ok (.link target)) {o : Origin}
    {kind : Option FileKind} {content : ByteArray} (ho : Finds t ignore data bundles o kind content)
    {l : List Addition} (hl : AddsAt t ignore data bundles (o.position data.length) l) :
    ∃ l', l' ⊆ l ∧ FileAdds o.key o.directories (o.root.descend o.names) content kind l' := by
  cases ho with
  | @data i root n names name content hroot hn hkept hfile hnames hname =>
    rcases hl with ⟨root', hroot', hl⟩ | ⟨j, dir, m, hj, -⟩
    · obtain rfl := Option.some_inj.mp (hroot.symm.trans hroot')
      have hlink : ∀ target, n ≠ .link target := by
        rintro target rfl
        exact hdata root (List.mem_of_getElem? hroot) target hn
      obtain ⟨r, hr, rfl⟩ := tree_additions ht hn hlink hl
      have hopened := (Node.mem_openings_file (ht.locate hn)).mpr hfile
      obtain ⟨l', hl', hadds⟩ :=
        exists_of_mapM_eq_ok hr (mem_treeOpenings.mpr ⟨hkept, hopened, hnames⟩)
      exact ⟨l', fun a ha => List.mem_flatten.mpr ⟨l', hl', ha⟩,
        fileAdds_tree (Node.isName_of_mem_openings (ht.locate hn) hopened) hname hadds⟩
    · have hlt := (List.getElem?_eq_some_iff.mp hroot).choose
      simp only [Origin.position] at hj
      omega
  | @bundle i dir n names name content hdir hn hfile hname =>
    rcases hl with ⟨root, hroot, -⟩ | ⟨j, dir', m, hj, hdir', hl⟩
    · have hlt := (List.getElem?_eq_some_iff.mp hroot).choose
      simp only [Origin.position] at hlt
      omega
    · obtain rfl : i = j := Nat.add_left_cancel hj
      obtain rfl := Option.some_inj.mp (hdir.symm.trans hdir')
      obtain ⟨n', r, hn', -, hr, rfl⟩ := bundle_additions ht hl
      obtain rfl := Except.ok.inj (hn.symm.trans hn')
      have hopened := (Node.mem_openings_file (ht.locate hn)).mpr hfile
      obtain ⟨l', hl', hadds⟩ := exists_of_mapM_eq_ok hr hopened
      have hlast : lastName? dir names = some name := by rw [lastName?, hname, Option.some_or]
      exact ⟨l', fun a ha => List.mem_flatten.mpr ⟨l', hl', ha⟩,
        fileAdds_bundle (Node.isName_of_mem_openings (ht.locate hn) hopened) hlast hadds⟩

/-- What a root adds is added by a file that is found. -/
theorem finds_of_mem (ht : t.WellFormed)
    (hdata : ∀ root ∈ data, ∀ target, t.entry root ≠ .ok (.link target)) {position : Nat}
    {l : List Addition} (hl : AddsAt t ignore data bundles position l) {a : Addition}
    (ha : a ∈ l) :
    ∃ o kind content l', o.position data.length = position ∧
      Finds t ignore data bundles o kind content ∧ a ∈ l' ∧
        FileAdds o.key o.directories (o.root.descend o.names) content kind l' := by
  rcases hl with ⟨root, hroot, hl⟩ | ⟨i, dir, m, rfl, hdir, hl⟩
  · cases hn : t.entry root with
    | error f =>
      rw [treeAdditions, openingsAt, FileTree.walk, hn] at hl
      cases hl
    | ok n =>
      have hlink : ∀ target, n ≠ .link target := by
        rintro target rfl
        exact hdata root (List.mem_of_getElem? hroot) target hn
      obtain ⟨r, hr, rfl⟩ := tree_additions ht hn hlink hl
      obtain ⟨l', hl', ha⟩ := List.mem_flatten.mp ha
      obtain ⟨⟨names, o⟩, ho, hadds⟩ := exists_of_mem_mapM hr hl'
      obtain ⟨p, content, heq, hadds⟩ := exists_file_of_openingAddition hadds ha
      cases heq
      obtain ⟨hkept, hopened, hnames⟩ := mem_treeOpenings.mp ho
      have hfile := (Node.mem_openings_file (ht.locate hn)).mp hopened
      obtain ⟨name, hname⟩ := exists_lastName? ht hn hfile
      exact ⟨.data position root names, _, content, l', rfl,
        .data hroot hn hkept hfile hnames hname, ha,
        fileAdds_tree (Node.isName_of_mem_openings (ht.locate hn) hopened) hname hadds⟩
  · obtain ⟨n, r, hn, hdirectory, hr, rfl⟩ := bundle_additions ht hl
    obtain ⟨l', hl', ha⟩ := List.mem_flatten.mp ha
    obtain ⟨⟨names, o⟩, hopened, hadds⟩ := exists_of_mem_mapM hr hl'
    obtain ⟨p, content, heq, hadds⟩ := exists_file_of_openingAddition hadds ha
    cases heq
    have hfile := (Node.mem_openings_file (ht.locate hn)).mp hopened
    obtain ⟨name, hname⟩ : ∃ name, names.getLast? = some name := by
      rcases List.eq_nil_or_concat names with rfl | ⟨init, name, rfl⟩
      · rw [Node.at?] at hfile
        cases hfile
        cases hdirectory
      · exact ⟨name, by rw [List.concat_eq_append, List.getLast?_concat]⟩
    have hlast : lastName? dir names = some name := by rw [lastName?, hname, Option.some_or]
    exact ⟨.bundle i dir names, _, content, l', rfl, .bundle hdir hn hfile hname, ha,
      fileAdds_bundle (Node.isName_of_mem_openings (ht.locate hn) hopened) hlast hadds⟩

theorem Finds.position_lt {o : Origin} {kind : Option FileKind} {content : ByteArray}
    (h : Finds t ignore data bundles o kind content) :
    o.position data.length < data.length + bundles.length := by
  cases h with
  | data hroot =>
    have hlt := (List.getElem?_eq_some_iff.mp hroot).choose
    simp only [Origin.position]
    omega
  | bundle hdir =>
    have hlt := (List.getElem?_eq_some_iff.mp hdir).choose
    simp only [Origin.position]
    omega

/-- Below one root, different names lead to different keys. -/
theorem names_eq_of_fileKey {root : Path} {n : Node} (hw : n.WellFormed)
    {names names' : List String} {content content' : ByteArray}
    (hfile : n.at? names = some (.file content)) (hfile' : n.at? names' = some (.file content'))
    (heq : fileKey root names = fileKey root names') : names = names' := by
  have hnames := Node.isName_of_mem_openings hw ((Node.mem_openings_file hw).mpr hfile)
  have hnames' := Node.isName_of_mem_openings hw ((Node.mem_openings_file hw).mpr hfile')
  cases names with
  | nil =>
    -- the root is a file, and nothing is below it
    rw [Node.at?] at hfile
    cases hfile
    cases names' with
    | nil => rfl
    | cons name' names' => cases hfile'
  | cons name names =>
    cases names' with
    | nil =>
      rw [Node.at?] at hfile'
      cases hfile'
      cases hfile
    | cons name' names' =>
      exact intercalate_injective hnames hnames' (by simp) (by simp) heq

theorem Finds.eq_of_position {o o' : Origin} {kind kind' : Option FileKind}
    {content content' : ByteArray} (ht : t.WellFormed)
    (ho : Finds t ignore data bundles o kind content)
    (ho' : Finds t ignore data bundles o' kind' content')
    (hposition : o.position data.length = o'.position data.length) (hkey : o.key = o'.key) :
    o = o' := by
  cases ho with
  | data hroot hn _ hfile =>
    cases ho' with
    | data hroot' hn' _ hfile' =>
      simp only [Origin.position] at hposition
      subst hposition
      obtain rfl := Option.some_inj.mp (hroot.symm.trans hroot')
      obtain rfl := Except.ok.inj (hn.symm.trans hn')
      rw [names_eq_of_fileKey (ht.locate hn) hfile hfile' hkey]
    | bundle =>
      have hlt := (List.getElem?_eq_some_iff.mp hroot).choose
      simp only [Origin.position] at hposition
      omega
  | bundle hdir hn hfile =>
    cases ho' with
    | data hroot' =>
      have hlt := (List.getElem?_eq_some_iff.mp hroot').choose
      simp only [Origin.position] at hposition
      omega
    | bundle hdir' hn' hfile' =>
      obtain rfl := Nat.add_left_cancel hposition
      obtain rfl := Option.some_inj.mp (hdir.symm.trans hdir')
      obtain rfl := Except.ok.inj (hn.symm.trans hn')
      rw [names_eq_of_fileKey (ht.locate hn) hfile hfile' hkey]

/-! ### The whole load -/

/-- A load that succeeds in a well-formed tree whose data paths are no links, with what each data
path and each bundle adds. -/
structure Loaded (t : FileTree) (ignore : IgnoreSet) (data bundles : List Path) (s : SourceSet)
    (L : List (List Addition)) : Prop where
  tree : t.WellFormed
  unlinked : ∀ root ∈ data, ∀ target, t.entry root ≠ .ok (.link target)
  assembled : assemble L.flatten = .ok { s with bundles := [] }
  wellFormed : ∀ a ∈ L.flatten, a.WellFormed
  length : L.length = data.length + bundles.length
  adds : ∀ j l, L[j]? = some l → AddsAt t ignore data bundles j l

theorem exists_loaded (ht : t.WellFormed)
    (hdata : ∀ root ∈ data, ∀ target, t.entry root ≠ .ok (.link target))
    (h : load t data bundles ignore.filter = .ok s) : ∃ L, Loaded t ignore data bundles s L := by
  obtain ⟨trees, bs, u, htrees, hbs, hu, rfl⟩ := load_eq_ok.mp h
  have hlength : trees.length = data.length := by
    simpa using (congrArg List.length (map_of_mapM_eq_ok htrees)).symm
  have hlength' : bs.length = bundles.length := by
    simpa using (congrArg List.length (map_of_mapM_eq_ok hbs)).symm
  have hnone : u.bundles = [] := bundles_of_foldlM_apply hu
  refine ⟨trees ++ bs.map Prod.snd, ht, hdata, ?_, ?_, ?_, ?_⟩
  · rw [List.flatten_append, hu]
    simp only [← hnone]
  · rw [List.flatten_append]
    exact load_additions_wellFormed htrees hbs
  · simp [hlength, hlength']
  · intro j l hl
    rw [List.getElem?_append] at hl
    split at hl
    · have hj := getElem?_of_mapM_eq_ok htrees j
      rw [hl] at hj
      obtain ⟨root, hroot, hadds⟩ := Option.map_eq_some_iff.mp hj
      exact .inl ⟨root, hroot, hadds⟩
    · rw [List.getElem?_map] at hl
      obtain ⟨⟨m, l⟩, hb, rfl⟩ := Option.map_eq_some_iff.mp hl
      have hj := getElem?_of_mapM_eq_ok hbs (j - trees.length)
      rw [hb] at hj
      obtain ⟨dir, hdir, hadds⟩ := Option.map_eq_some_iff.mp hj
      exact .inr ⟨j - trees.length, dir, m, by omega, hdir, hadds⟩

theorem load_manifests (h : load t data bundles ignore.filter = .ok s) :
    s.bundles.length = bundles.length ∧
      ∀ (i : Nat) (dir : Path) (m : BundleManifest), bundles[i]? = some dir →
        s.bundles[i]? = some m → ManifestIn t dir m := by
  obtain ⟨trees, bs, u, htrees, hbs, hu, rfl⟩ := load_eq_ok.mp h
  refine ⟨by simpa using (congrArg List.length (map_of_mapM_eq_ok hbs)).symm, ?_⟩
  intro i dir m hdir hm
  rw [List.getElem?_map] at hm
  obtain ⟨⟨m, l⟩, hb, rfl⟩ := Option.map_eq_some_iff.mp hm
  have hi := getElem?_of_mapM_eq_ok hbs i
  rw [hdir, hb] at hi
  exact (readManifest_eq_ok (bundleAdditions_eq_ok.mp (Option.some_inj.mp hi)).1).2

/-- A key stands for a module of one root only. -/
theorem position_eq {L : List (List Addition)} {u : SourceSet} (h : assemble L.flatten = .ok u)
    (hu : Dictionary.Sorted u.modules) {i j : Nat} {a b : List Addition} (hi : L[i]? = some a)
    (hj : L[j]? = some b) {key x y : String} (ha : .module key x ∈ a) (hb : .module key y ∈ b) :
    i = j := by
  -- the keys of all modules differ, so two roots have none in common
  have hnodup : (L.flatten.filterMap fun a => a.module?.map Prod.fst).Pairwise (· ≠ ·) := by
    rw [← List.map_filterMap]
    exact ((modules_of_assemble h).map Prod.fst).nodup hu.nodup
  rw [List.filterMap_flatten, List.pairwise_flatten] at hnodup
  have hmem {l : List Addition} {x : String} (hl : .module key x ∈ l) :
      key ∈ l.filterMap fun a => a.module?.map Prod.fst :=
    List.mem_filterMap.mpr ⟨_, hl, rfl⟩
  obtain ⟨hia, rfl⟩ := List.getElem?_eq_some_iff.mp hi
  obtain ⟨hjb, rfl⟩ := List.getElem?_eq_some_iff.mp hj
  have hapart := List.pairwise_iff_getElem.mp hnodup.2
  rcases Nat.lt_trichotomy i j with hlt | heq | hgt
  · refine absurd rfl (hapart i j (by simpa) (by simpa) hlt key ?_ key ?_)
    · simpa using hmem ha
    · simpa using hmem hb
  · exact heq
  · refine absurd rfl (hapart j i (by simpa) (by simpa) hgt key ?_ key ?_)
    · simpa using hmem hb
    · simpa using hmem ha

namespace Loaded

variable {L : List (List Addition)} (hL : Loaded t ignore data bundles s L)

include hL

theorem sorted : Dictionary.Sorted s.modules :=
  (foldlM_apply_wellFormed SourceSet.wellFormed_empty hL.wellFormed hL.assembled).modules

/-- What a file that is found adds is added by its root. -/
theorem exists_adds {o : Origin} {kind : Option FileKind} {content : ByteArray}
    (ho : Finds t ignore data bundles o kind content) :
    ∃ l l', L[o.position data.length]? = some l ∧ l' ⊆ l ∧
      FileAdds o.key o.directories (o.root.descend o.names) content kind l' := by
  have hl := List.getElem?_eq_getElem (hL.length ▸ ho.position_lt)
  obtain ⟨l', hsubset, hl'⟩ := exists_of_finds hL.tree hL.unlinked ho (hL.adds _ _ hl)
  exact ⟨_, l', hl, hsubset, hl'⟩

/-- What is added is added by a file that is found. -/
theorem exists_finds {a : Addition} (ha : a ∈ L.flatten) : ∃ o kind content l',
    Finds t ignore data bundles o kind content ∧ a ∈ l' ∧
      FileAdds o.key o.directories (o.root.descend o.names) content kind l' := by
  obtain ⟨l, hl, ha⟩ := List.mem_flatten.mp ha
  obtain ⟨j, hj⟩ := List.mem_iff_getElem?.mp hl
  obtain ⟨o, kind, content, l', -, ho, ha, hl'⟩ :=
    finds_of_mem hL.tree hL.unlinked (hL.adds j l hj) ha
  exact ⟨o, kind, content, l', ho, ha, hl'⟩

theorem exists_module {o : Origin} {content : ByteArray}
    (ho : Finds t ignore data bundles o (some .policy) content) :
    ∃ l source, L[o.position data.length]? = some l ∧ content = source.toUTF8 ∧
      .module o.key source ∈ l := by
  obtain ⟨l, l', hl, hsubset, hl'⟩ := hL.exists_adds ho
  cases hl' with
  | @module source hsource => exact ⟨l, source, hl, hsource, hsubset (List.mem_singleton.mpr rfl)⟩

theorem exists_document {o : Origin} {format : DataFormat} {content : ByteArray}
    (ho : Finds t ignore data bundles o (some (.data format)) content) :
    ∃ doc, IsDocument format content doc ∧
      .document o.directories doc (o.root.descend o.names) ∈ L.flatten := by
  obtain ⟨l, l', hl, hsubset, hl'⟩ := hL.exists_adds ho
  cases hl' with
  | @document _ doc hdoc =>
    have hmem := hsubset (List.mem_singleton.mpr rfl)
    exact ⟨doc, hdoc, List.mem_flatten.mpr ⟨l, List.mem_of_getElem? hl, hmem⟩⟩

theorem module_of_finds {o : Origin} {content : ByteArray}
    (ho : Finds t ignore data bundles o (some .policy) content) :
    ∃ source : String, content = source.toUTF8 ∧ (o.key, source) ∈ s.modules := by
  obtain ⟨l, source, hl, hsource, hmem⟩ := hL.exists_module ho
  have hadded := List.mem_flatten.mpr ⟨l, List.mem_of_getElem? hl, hmem⟩
  exact ⟨source, hsource, (mem_modules_iff hL.assembled).mpr hadded⟩

theorem finds_of_module {key source : String} (hmem : (key, source) ∈ s.modules) :
    ∃ o, Finds t ignore data bundles o (some .policy) source.toUTF8 ∧ o.key = key := by
  obtain ⟨o, kind, content, l', ho, ha, hl'⟩ :=
    hL.exists_finds ((mem_modules_iff hL.assembled).mp hmem)
  cases hl' with
  | nothing => cases ha
  | document => cases List.mem_singleton.mp ha
  | module hsource =>
    obtain ⟨rfl, rfl⟩ := Addition.module.inj (List.mem_singleton.mp ha)
    exact ⟨o, hsource ▸ ho, rfl⟩

theorem origin_eq {o o' : Origin} {content content' : ByteArray}
    (ho : Finds t ignore data bundles o (some .policy) content)
    (ho' : Finds t ignore data bundles o' (some .policy) content') (hkey : o.key = o'.key) :
    o = o' := by
  obtain ⟨l, source, hl, -, hmem⟩ := hL.exists_module ho
  obtain ⟨l', source', hl', -, hmem'⟩ := hL.exists_module ho'
  have hposition := position_eq hL.assembled hL.sorted hl hl' hmem (hkey ▸ hmem')
  exact ho.eq_of_position hL.tree ho' hposition hkey

theorem face?_iff {p : List String} (hp : p ≠ []) (f : Face) :
    (Value.object s.data).face? p = some f ↔ ∃ o format content doc,
      Finds t ignore data bundles o (some (.data format)) content ∧
        IsDocument format content doc ∧ (nestUnder o.directories doc).face? p = some f := by
  have hnone : (Value.object []).face? p ≠ some f := by
    cases p with
    | nil => exact absurd rfl hp
    | cons k p => simp
  refine (foldlM_apply_face? hL.wellFormed hL.assembled p f).trans ?_
  rw [or_iff_right hnone]
  constructor
  · rintro ⟨a, ha, hface⟩
    obtain ⟨o, kind, content, l', ho, ha, hl'⟩ := hL.exists_finds ha
    cases hl' with
    | nothing => cases ha
    | module =>
      obtain rfl := List.mem_singleton.mp ha
      cases hface
    | @document format doc hdoc =>
      obtain rfl := List.mem_singleton.mp ha
      exact ⟨o, format, content, doc, ho, hdoc, hface⟩
  · rintro ⟨o, format, content, doc, ho, hdoc, hface⟩
    obtain ⟨doc', hdoc', hmem⟩ := hL.exists_document ho
    obtain rfl := hdoc.unique hdoc'
    exact ⟨_, hmem, hface⟩

end Loaded

/-- In a well-formed tree whose data paths are no links, what a successful load returns is the files
that it finds:

* every module file is text, and is a module under its key;
* every module is the text of such a file;
* no two of them share a key, and no key stands for two modules;
* every data file holds a document;
* at a key path that is not empty, the data hold an object or a value that is none exactly if some
  document does, under the names of its directories;
* there is one manifest for each bundle, in their order. -/
theorem load_inventory (ht : t.WellFormed)
    (hdata : ∀ root ∈ data, ∀ target, t.entry root ≠ .ok (.link target))
    (h : load t data bundles ignore.filter = .ok s) :
    (∀ o content, Finds t ignore data bundles o (some .policy) content →
      ∃ source : String, content = source.toUTF8 ∧ (o.key, source) ∈ s.modules) ∧
    (∀ key source, (key, source) ∈ s.modules →
      ∃ o, Finds t ignore data bundles o (some .policy) source.toUTF8 ∧ o.key = key) ∧
    (∀ o o' content content', Finds t ignore data bundles o (some .policy) content →
      Finds t ignore data bundles o' (some .policy) content' → o.key = o'.key → o = o') ∧
    (s.modules.map Prod.fst).Nodup ∧
    (∀ o format content, Finds t ignore data bundles o (some (.data format)) content →
      ∃ doc, IsDocument format content doc) ∧
    (∀ p ≠ [], ∀ f, (Value.object s.data).face? p = some f ↔ ∃ o format content doc,
      Finds t ignore data bundles o (some (.data format)) content ∧
        IsDocument format content doc ∧ (nestUnder o.directories doc).face? p = some f) ∧
    s.bundles.length = bundles.length ∧
    (∀ (i : Nat) (dir : Path) (m : BundleManifest), bundles[i]? = some dir →
      s.bundles[i]? = some m → ManifestIn t dir m) := by
  obtain ⟨L, hL⟩ := exists_loaded ht hdata h
  refine ⟨fun _ _ => hL.module_of_finds, fun _ _ => hL.finds_of_module,
    fun _ _ _ _ => hL.origin_eq, hL.sorted.nodup, fun o format content ho => ?_,
    fun _ => hL.face?_iff, load_manifests h⟩
  obtain ⟨doc, hdoc, -⟩ := hL.exists_document ho
  exact ⟨doc, hdoc⟩

/-- A tree with a bundle that has a module, and a data file that is none of the bundle's. -/
def smallTree : FileTree :=
  bundleTree "\x7b\x7d"
    [("m.rego", .file "package a".toUTF8), ("x.json", .file "\x7b\"y\":1\x7d".toUTF8)]

theorem wellFormed_smallTree : smallTree.WellFormed := by
  refine ⟨rfl, Node.wellFormed_of_names ["b"] rfl (by decide) (by decide) ?_⟩
  rw [List.forall_mem_singleton]
  refine Node.wellFormed_of_names [".manifest", "m.rego", "x.json"] rfl (by decide) (by decide) ?_
  simp only [List.forall_mem_cons]
  exact ⟨.file _, .file _, .file _, List.forall_mem_nil _⟩

theorem entry_smallTree :
    smallTree.entry ⟨"b/x.json"⟩ = .ok (.file "\x7b\"y\":1\x7d".toUTF8) := by
  have hsteps : Path.steps ⟨"b/x.json"⟩ = [.into "b", .into "x.json"] := by decide
  rw [FileTree.entry, FileTree.locate_of_working rfl rfl (by decide), hsteps]
  simp [smallTree, bundleTree, FileTree.follow, Dictionary.find?]

theorem treeAdditions_smallTree :
    treeAdditions smallTree IgnoreSet.empty.filter ⟨"b/x.json"⟩
      = .ok [.document [] (.object [("y", .number (.int 1))]) ⟨"b/x.json"⟩] := by
  have hkind : FileKind.ofExtension? ⟨"b/x.json"⟩ = some (.data .json) := by decide
  have hdoc : readDocument ⟨"b/x.json"⟩ .json "\x7b\"y\":1\x7d"
      = .ok (.object [("y", .number (.int 1))]) := rfl
  have htext : sourceText ⟨"b/x.json"⟩ "\x7b\"y\":1\x7d".toUTF8 = .ok "\x7b\"y\":1\x7d" :=
    sourceText_eq_ok.mpr ⟨by decide, rfl⟩
  have hfile : openingAddition (treeAddition ⟨"b/x.json"⟩)
      (⟨"b/x.json"⟩, .file "\x7b\"y\":1\x7d".toUTF8)
      = .ok [.document [] (.object [("y", .number (.int 1))]) ⟨"b/x.json"⟩] := by
    simp only [openingAddition, treeAddition, hkind, htext, ok_bind, hdoc]
    rfl
  have hopenings : (treeOpenings IgnoreSet.empty ⟨"b/x.json"⟩
      (.file "\x7b\"y\":1\x7d".toUTF8)).map (fun o => (descend ⟨"b/x.json"⟩ o.1, o.2))
        = [(⟨"b/x.json"⟩, .file "\x7b\"y\":1\x7d".toUTF8)] := rfl
  rw [treeAdditions, openingsAt_tree _ wellFormed_smallTree entry_smallTree (by simp), hopenings,
    ok_bind, List.mapM_cons, hfile]
  rfl

theorem bundleAdditions_smallTree :
    bundleAdditions smallTree ⟨"b"⟩ = .ok ({}, [.module "m.rego" "package a"]) := by
  obtain ⟨parsed, hparsed⟩ : ∃ parsed, Policy.parseModule "b/m.rego" "package a" = .ok parsed := by
    have h : (Policy.parseModule "b/m.rego" "package a").toOption.isSome := by decide +kernel
    cases hp : Policy.parseModule "b/m.rego" "package a" with
    | error cause => simp [hp, Except.toOption] at h
    | ok parsed => exact ⟨parsed, rfl⟩
  have hmodule : bundleAddition {} ⟨"b"⟩ (⟨"b/m.rego"⟩, "package a".toUTF8)
      = .ok [.module "m.rego" "package a"] :=
    bundleAddition_of_policy (by decide) (by decide +kernel) hparsed rfl
      ((moduleKey_text _ _).trans (by decide))
  refine bundleAdditions_eq_ok.mpr ⟨readManifest_bundleTree rfl _, _,
    [[], [], [.module "m.rego" "package a"], []], openingsAt_bundleTree _ _, ?_, rfl⟩
  have hopenings : (walkEntries EntryFilter.none 1 ⟨"b"⟩
      [("m.rego", .file "package a".toUTF8),
        ("x.json", .file "\x7b\"y\":1\x7d".toUTF8)]).filterMap WalkEntry.opening?
      = [(⟨"b/m.rego"⟩, .file "package a".toUTF8),
        (⟨"b/x.json"⟩, .file "\x7b\"y\":1\x7d".toUTF8)] := rfl
  rw [List.mapM_cons, openingAddition_directory (p := ⟨"b"⟩) (by decide), List.mapM_cons,
    openingAddition_file, bundleAddition_of_none (by decide +kernel), hopenings,
    List.mapM_cons, openingAddition_file, hmodule, List.mapM_cons, openingAddition_file,
    bundleAddition_of_none (by decide +kernel)]
  rfl

theorem load_smallTree :
    load smallTree [⟨"b/x.json"⟩] [⟨"b"⟩] IgnoreSet.empty.filter
      = .ok { modules := [("m.rego", "package a")], data := [("y", .number (.int 1))],
              bundles := [{}] } := by
  have htrees : [Path.mk "b/x.json"].mapM (treeAdditions smallTree IgnoreSet.empty.filter)
      = .ok [[.document [] (.object [("y", .number (.int 1))]) ⟨"b/x.json"⟩]] := by
    rw [List.mapM_cons, treeAdditions_smallTree]
    rfl
  have hbundles : [Path.mk "b"].mapM (bundleAdditions smallTree)
      = .ok [({}, [.module "m.rego" "package a"])] := by
    rw [List.mapM_cons, bundleAdditions_smallTree]
    rfl
  exact load_eq_ok.mpr ⟨_, _, ⟨[("m.rego", "package a")], [("y", .number (.int 1))], []⟩, htrees,
    hbundles, rfl, rfl⟩

theorem load_inventory_smallTree :
    (∃ o, Finds smallTree .empty [⟨"b/x.json"⟩] [⟨"b"⟩] o (some .policy) "package a".toUTF8 ∧
      o.key = "m.rego") ∧
    ∃ o format content doc, Finds smallTree .empty [⟨"b/x.json"⟩] [⟨"b"⟩] o (some (.data format))
      content ∧ IsDocument format content doc ∧
        (nestUnder o.directories doc).face? ["y"] = some (.leaf (.number (.int 1))) := by
  have hdata : ∀ root ∈ [Path.mk "b/x.json"], ∀ target,
      smallTree.entry root ≠ .ok (.link target) := by
    simp [entry_smallTree]
  obtain ⟨-, hmodules, -, -, -, hseen, -⟩ :=
    load_inventory wellFormed_smallTree hdata load_smallTree
  exact ⟨hmodules _ _ (List.mem_singleton.mpr rfl), (hseen ["y"] (by decide) _).mp rfl⟩

end PolicyPack
