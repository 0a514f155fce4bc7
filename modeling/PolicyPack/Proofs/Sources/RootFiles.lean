import PolicyPack.Proofs.Files.Follow
import PolicyPack.Proofs.Sources.Confinement
import PolicyPack.Proofs.Text.Utf8

/-!
# The files of a root

Below a data path or a bundle, files are found by the names that lead to them. What the loader knows
of a file (its key, the keys of its document, its kind) comes from these names, however the path of
the root is spelled, and what a file adds comes from its kind and content.
-/

namespace PolicyPack

open Json PolicyPack.Path

/-! ### Files below a root -/

/-- The last name on the way to a file, which for a root that is the file is the root's own. -/
def lastName? (root : Path) (names : List String) : Option String :=
  names.getLast?.or root.fileName?

/-- How the module in a file is known: by the names that lead to it, joined with slashes, or by the
name of the root if the root is the file. -/
def fileKey (root : Path) : List String → String
  | [] => root.fileName?.getD ""
  | names => "/".intercalate names

/-- What is opened of a data tree of which a filter leaves out entries. -/
def treeOpenings (ignore : IgnoreSet) (root : Path) (n : Node) : List (List String × Opening) :=
  if ignore.excludes root then [] else n.openings.filter fun o => ignore.keeps o.1

variable {root dir p : Path} {names : List String} {content : ByteArray}

theorem fileName?_descend (h : ∀ name ∈ names, IsName name) :
    (root.descend names).fileName? = lastName? root names := by
  rcases List.eq_nil_or_concat names with rfl | ⟨init, name, rfl⟩
  · rfl
  · rw [List.concat_eq_append] at h ⊢
    rw [descend_concat, fileName?_child _ (h name (by simp)), lastName?, List.getLast?_concat]
    rfl

/-- The extension of a path is that of its last name. -/
theorem ofExtension?_eq {name : String} (h : p.fileName? = some name) :
    FileKind.ofExtension? p = FileKind.ofExtension? ⟨name⟩ := by
  have hname : fileName? ⟨name⟩ = some name := by
    rw [fileName?, components_of_name (isName_of_fileName? h)]
    rfl
  rw [FileKind.ofExtension?, FileKind.ofExtension?, extension?, extension?, h, hname]

theorem moduleKey_eq (h : ∀ name ∈ names, IsName name) {name : String}
    (hlast : lastName? root names = some name) :
    moduleKey root (root.descend names) = fileKey root names := by
  cases names with
  | nil =>
    have hself : root.fileName? = some name := hlast
    rw [descend_nil, moduleKey_self hself, fileKey, hself]
    rfl
  | cons k names => exact moduleKey_descend root h (List.cons_ne_nil k names)

theorem intercalate_injective {names names' : List String} (h : ∀ name ∈ names, IsName name)
    (h' : ∀ name ∈ names', IsName name) (hne : names ≠ []) (hne' : names' ≠ [])
    (heq : "/".intercalate names = "/".intercalate names') : names = names' := by
  have hsegments := congrArg (fun k : String => split k.toList) heq
  simp only [split_intercalate hne, split_intercalate hne'] at hsegments
  rw [keySegments_eq_map fun k hk => (h k hk).no_slash,
    keySegments_eq_map fun k hk => (h' k hk).no_slash] at hsegments
  exact (List.map_inj_right fun _ _ => String.toList_inj.mp).mp hsegments

/-! ### What a file adds -/

/-- The content is the text of a document in the format. -/
def IsDocument (format : DataFormat) (content : ByteArray) (doc : Value) : Prop :=
  ∃ text : String, content = text.toUTF8 ∧
    match format with
    | .json => Value.ofText text = .ok doc
    | .yaml => Yaml.dataOfText text = .ok doc

theorem IsDocument.unique {format : DataFormat} {content : ByteArray} {doc doc' : Value}
    (h : IsDocument format content doc) (h' : IsDocument format content doc') : doc = doc' := by
  obtain ⟨text, htext, hdoc⟩ := h
  obtain ⟨text', htext', hdoc'⟩ := h'
  obtain rfl : text = text' := String.toByteArray_inj.mp (htext.symm.trans htext')
  cases format with
  | json => exact Except.ok.inj (hdoc.symm.trans hdoc')
  | yaml => exact Except.ok.inj (hdoc.symm.trans hdoc')

/-- What a file of a kind adds: a module with its text, or the document in it. -/
inductive FileAdds (key : String) (keys : List String) (origin : Path) (content : ByteArray) :
    Option FileKind → List Addition → Prop
  | nothing : FileAdds key keys origin content none []
  | module {source : String} (h : content = source.toUTF8) :
    FileAdds key keys origin content (some .policy) [.module key source]
  | document {format : DataFormat} {doc : Value} (h : IsDocument format content doc) :
    FileAdds key keys origin content (some (.data format)) [.document keys doc origin]

theorem isDocument_of_read {format : DataFormat} {text : String} {doc : Value}
    (htext : sourceText p content = .ok text) (hdoc : readDocument p format text = .ok doc) :
    IsDocument format content doc := by
  refine ⟨text, (sourceText_eq_ok.mp htext).2, ?_⟩
  unfold readDocument at hdoc
  cases format with
  | json =>
    cases hv : Value.ofText text with
    | ok v => simp_all
    | error f => simp [hv] at hdoc
  | yaml =>
    cases hv : Yaml.dataOfText text with
    | ok v => simp_all
    | error f => simp [hv] at hdoc

theorem treeAddition_of_none (h : FileKind.ofExtension? p = none) :
    treeAddition root (p, content) = .ok [] := by
  rw [treeAddition, h]
  rfl

theorem bundleAddition_of_none {m : BundleManifest}
    (h : p.fileName?.bind FileKind.ofBundleName? = none) :
    bundleAddition m dir (p, content) = .ok [] := by
  rw [bundleAddition, h]
  rfl

theorem fileAdds_treeAddition {f : Path × ByteArray} {l : List Addition}
    (h : treeAddition root f = .ok l) :
    FileAdds (moduleKey root f.1) (directoryKeys root f.1) f.1 f.2
      (FileKind.ofExtension? f.1) l := by
  unfold treeAddition at h
  split at h
  · next hkind =>
    cases h
    rw [hkind]
    exact .nothing
  · next hkind =>
    obtain ⟨source, hsource, h⟩ := bind_eq_ok.mp h
    obtain ⟨_, -, h⟩ := bind_eq_ok.mp h
    cases h
    rw [hkind]
    exact .module (sourceText_eq_ok.mp hsource).2
  · next hkind =>
    obtain ⟨text, htext, h⟩ := bind_eq_ok.mp h
    obtain ⟨doc, hdoc, h⟩ := bind_eq_ok.mp h
    cases h
    rw [hkind]
    exact .document (isDocument_of_read htext hdoc)

theorem fileAdds_bundleAddition {m : BundleManifest} {f : Path × ByteArray} {l : List Addition}
    (h : bundleAddition m dir f = .ok l) :
    FileAdds (moduleKey dir f.1) (directoryKeys dir f.1) f.1 f.2
      (f.1.fileName?.bind FileKind.ofBundleName?) l := by
  unfold bundleAddition at h
  split at h
  · next hkind =>
    cases h
    rw [hkind]
    exact .nothing
  · next hkind =>
    obtain ⟨source, hsource, h⟩ := bind_eq_ok.mp h
    obtain ⟨parsed, -, h⟩ := bind_eq_ok.mp h
    simp only [throw_eq_error, error_bind] at h
    rw [hkind]
    split at h
    · cases h
    · cases h
      exact .module (sourceText_eq_ok.mp hsource).2
  · next hkind =>
    obtain ⟨text, htext, h⟩ := bind_eq_ok.mp h
    obtain ⟨doc, hdoc, h⟩ := bind_eq_ok.mp h
    obtain ⟨_, -, h⟩ := bind_eq_ok.mp h
    cases h
    rw [hkind]
    exact .document (isDocument_of_read htext hdoc)

/-! ### What is opened of a root -/

variable {t : FileTree} {n : Node}

theorem openingsAt_tree (ignore : IgnoreSet) (ht : t.WellFormed) (hn : t.entry root = .ok n)
    (hlink : ∀ target, n ≠ .link target) :
    openingsAt t ignore.filter root
      = .ok ((treeOpenings ignore root n).map fun o => (root.descend o.1, o.2)) := by
  have hwalk : t.walk ignore.filter root = .ok (n.walk ignore.filter 0 root) := by
    rw [FileTree.walk, hn, ok_bind]
    cases n with
    | link target => exact absurd rfl (hlink target)
    | _ => rfl
  rw [openingsAt, hwalk]
  simp only [opened_walk ignore (ht.locate hn), treeOpenings]
  split <;> rfl

/-- Of a root that is a link to a directory is opened what a filter leaves of the directory, even if
the filter leaves out the link. -/
theorem openingsAt_link (ignore : IgnoreSet) (ht : t.WellFormed) {target : Path}
    (hlink : t.entry root = .ok (.link target)) (hn : t.status root = .ok n)
    (hdir : n.isDirectory) :
    openingsAt t ignore.filter root = .ok
      ((n.openings.filter fun o => ignore.keeps o.1).map fun o => (root.descend o.1, o.2)) := by
  cases n with
  | file | link => cases hdir
  | directory entries =>
    obtain ⟨-, hnames, hnodes⟩ := Node.wellFormed_directory.mp (ht.locate hn)
    have hbelow := opened_walkEntries ignore 1 root hnames
      fun e he p => opened_walk _ (hnodes e he) 1 p
    have hself : WalkEntry.opening? ⟨root, .directory entries⟩ = some (root, .directory) := rfl
    rw [openingsAt, FileTree.walk, hlink, ok_bind]
    simp only [hn, ok_bind, pure_eq_ok, List.filterMap_append, List.filterMap_cons, hself, hbelow]
    -- the link itself is not opened
    cases ignore.filter root false 0 <;> rfl

theorem openingsAt_link_of_not_directory (excluded : EntryFilter) {target : Path}
    (hlink : t.entry root = .ok (.link target)) (hn : t.status root = .ok n)
    (hdir : n.isDirectory = false) : openingsAt t excluded root = .ok [] := by
  rw [openingsAt, FileTree.walk, hlink, ok_bind]
  simp only [hn, ok_bind]
  cases n with
  | directory => cases hdir
  | file | link => cases excluded root false 0 <;> rfl

theorem IgnoreSet.excludes_empty (p : Path) : IgnoreSet.empty.excludes p = false := by
  rw [excludes]
  cases p.fileName? <;> rfl

theorem IgnoreSet.keeps_empty (names : List String) : IgnoreSet.empty.keeps names = true :=
  List.all_eq_true.mpr fun _ _ => rfl

theorem IgnoreSet.filter_empty : IgnoreSet.empty.filter = EntryFilter.none :=
  funext fun p => funext fun _ => funext fun _ => excludes_empty p

theorem openingsAt_bundle (ht : t.WellFormed) (hn : t.status dir = .ok n) (hdir : n.isDirectory) :
    openingsAt t EntryFilter.none dir
      = .ok (n.openings.map fun o => (dir.descend o.1, o.2)) := by
  have hall : (n.openings.filter fun o => IgnoreSet.empty.keeps o.1) = n.openings :=
    List.filter_eq_self.mpr fun o _ => IgnoreSet.keeps_empty o.1
  obtain ⟨m, hm⟩ := FileTree.exists_entry hn
  rw [← IgnoreSet.filter_empty]
  by_cases hlink : ∃ target, m = .link target
  · obtain ⟨target, rfl⟩ := hlink
    rw [openingsAt_link _ ht hm hn hdir, hall]
  · have hne : ∀ target, m ≠ .link target := fun target he => hlink ⟨target, he⟩
    obtain rfl := Except.ok.inj (hn.symm.trans (FileTree.status_of_entry hm hne))
    rw [openingsAt_tree _ ht hm hne, treeOpenings, IgnoreSet.excludes_empty,
      if_neg Bool.false_ne_true, hall]

theorem readManifest_of_not_directory (h : t.isDirectory dir = false) :
    readManifest t dir = .error (.load (.bundleNotDirectory dir)) := by
  rw [readManifest, h]
  rfl

theorem IgnoreSet.keeps_iff {ignore : IgnoreSet} :
    ignore.keeps names = true ↔ ∀ name ∈ names, ignore.matchesName name = false := by
  simp [IgnoreSet.keeps]

theorem mem_treeOpenings {ignore : IgnoreSet} {o : Opening} :
    (names, o) ∈ treeOpenings ignore root n ↔ ignore.excludes root = false ∧
      (names, o) ∈ n.openings ∧ ∀ name ∈ names, ignore.matchesName name = false := by
  unfold treeOpenings
  cases hroot : ignore.excludes root with
  | true => simp
  | false => simp [IgnoreSet.keeps_iff]

theorem fileAdds_tree (hnames : ∀ name ∈ names, IsName name) {name : String}
    (hname : lastName? root names = some name) {l : List Addition}
    (h : treeAddition root (root.descend names, content) = .ok l) :
    FileAdds (fileKey root names) names.dropLast (root.descend names) content
      (FileKind.ofExtension? ⟨name⟩) l := by
  have hadds := fileAdds_treeAddition h
  rwa [moduleKey_eq hnames hname, directoryKeys_descend root hnames,
    ofExtension?_eq ((fileName?_descend hnames).trans hname)] at hadds

theorem fileAdds_bundle (hnames : ∀ name ∈ names, IsName name) {name : String}
    (hname : lastName? dir names = some name) {m : BundleManifest} {l : List Addition}
    (h : bundleAddition m dir (dir.descend names, content) = .ok l) :
    FileAdds (fileKey dir names) names.dropLast (dir.descend names) content
      (FileKind.ofBundleName? name) l := by
  have hadds := fileAdds_bundleAddition h
  rwa [moduleKey_eq hnames hname, directoryKeys_descend dir hnames,
    (fileName?_descend hnames).trans hname] at hadds

/-- Every file of a root has a name. -/
theorem exists_lastName? (ht : t.WellFormed) (hn : t.entry root = .ok n)
    (hfile : n.at? names = some (.file content)) : ∃ name, lastName? root names = some name := by
  rcases List.eq_nil_or_concat names with rfl | ⟨init, name, rfl⟩
  · rw [Node.at?] at hfile
    cases hfile
    exact FileTree.exists_fileName? ht hn
  · rw [lastName?, List.concat_eq_append, List.getLast?_concat]
    exact ⟨name, rfl⟩

end PolicyPack
