import PolicyPack.Proofs.Sources.RootFiles

/-!
# A tree given as a bundle

A bundle without a manifest owns every place of the data, so it takes in a file as a data tree does,
if the two take it for the same kind of file. The one goes by the extension of a file and the other
by its name, and both open all of the directory in one order, so all of it is loaded
alike, the failures too.
-/

namespace PolicyPack

open Json PolicyPack.Path

/-! ### Kinds of files -/

/-- A name that stands for the same kind of file in a data tree and in a bundle: of data files those
are the names that a bundle looks for, and a module has something before its extension. -/
structure NamedForBundle (name : String) : Prop where
  data : extension? ⟨name⟩ ∈ [some "json", some "yaml", some "yml"] →
    name ∈ ["data.json", "data.yaml", "data.yml"]
  policy : name ≠ ".rego"

theorem extension?_of_name {name : String} (h : IsName name) :
    extension? ⟨name⟩ = (extensionOfName? name.toList).map String.ofList := by
  rw [extension?, fileName?, components_of_name h]
  rfl

/-- The extension says that a file is a module when the end of its name does, but for a name that is
nothing else. -/
theorem extension?_eq_rego {name : String} (h : IsName name) :
    extension? ⟨name⟩ = some "rego" ↔ name.endsWith ".rego" = true ∧ name ≠ ".rego" := by
  have hrego : ".rego".toList = '.' :: "rego".toList := by decide
  rw [extension?_of_name h, Option.map_eq_some_iff, String.endsWith_eq_endsWith_toSlice,
    String.Slice.endsWith_string_iff, String.copy_toSlice]
  constructor
  · rintro ⟨e, he, hofList⟩
    obtain ⟨stem, hstem, hname, -⟩ := extensionOfName?_eq_some.mp he
    have hlist : e = "rego".toList := by rw [← hofList, String.toList_ofList]
    rw [hlist, ← hrego] at hname
    refine ⟨⟨stem, hname.symm⟩, ?_⟩
    rintro rfl
    exact hstem (by simpa using hname)
  · rintro ⟨⟨stem, hname⟩, hne⟩
    refine ⟨"rego".toList, extensionOfName?_eq_some.mpr ⟨stem, ?_, ?_, by decide⟩, by decide⟩
    · rintro rfl
      exact hne (String.toList_inj.mp hname.symm)
    · rw [← hname, hrego]

theorem ofExtension?_eq_ofBundleName? {name : String} (hname : IsName name)
    (h : NamedForBundle name) : FileKind.ofExtension? ⟨name⟩ = FileKind.ofBundleName? name := by
  by_cases hrego : name.endsWith ".rego" = true
  · have hext := (extension?_eq_rego hname).mpr ⟨hrego, h.policy⟩
    have hmanifest : name ≠ ".manifest" := fun he => absurd (he ▸ hrego) (by decide +kernel)
    have hsignatures : name ≠ ".signatures.json" := fun he =>
      absurd (he ▸ hrego) (by decide +kernel)
    rw [FileKind.ofExtension?, hext, FileKind.ofBundleName?,
      if_neg (not_or.mpr ⟨hmanifest, hsignatures⟩), if_pos hrego]
    rfl
  · have hext : extension? ⟨name⟩ ≠ some "rego" := fun he =>
      hrego ((extension?_eq_rego hname).mp he).1
    by_cases hdata : name ∈ ["data.json", "data.yaml", "data.yml"]
    · simp only [List.mem_cons, List.not_mem_nil, or_false] at hdata
      rcases hdata with rfl | rfl | rfl <;> decide +kernel
    · have hnone : FileKind.ofExtension? ⟨name⟩ = none := by
        unfold FileKind.ofExtension?
        split
        · next he => exact absurd he hext
        · next he => exact absurd (h.data (by simp [he])) hdata
        · next he => exact absurd (h.data (by simp [he])) hdata
        · next he => exact absurd (h.data (by simp [he])) hdata
        · rfl
      simp only [List.mem_cons, List.not_mem_nil, or_false, not_or] at hdata
      simp [hnone, FileKind.ofBundleName?, hrego, hdata]

/-! ### The files of a directory -/

variable {t : FileTree} {dir : Path} {n : Node}

/-- A bundle that says nothing of itself owns everything, so it takes in a file as a data tree
does. -/
theorem addBundleFile_of_kind {f : Path × ByteArray}
    (h : f.1.fileName?.bind FileKind.ofBundleName? = FileKind.ofExtension? f.1) (s : SourceSet) :
    addBundleFile {} dir s f = addTreeFile dir s f := by
  have howns (path : String) : BundleManifest.owns {} path = true := rfl
  have hplaces (keys : List String) (doc : Value) : checkPlaces {} keys doc f.1 = .ok () := by
    have hnone : (documentPlaces keys doc).find? (fun place => !BundleManifest.owns {} place)
        = none := by simp [howns]
    rw [checkPlaces, hnone]
  unfold addBundleFile addTreeFile
  rw [h]
  cases FileKind.ofExtension? f.1 with
  | none => rfl
  | some kind =>
    cases kind with
    | policy => simp [BundleManifest.ownsPackage, howns]
    | data format => simp [hplaces]

/-- A manifest that is not there says nothing. -/
theorem readManifest_of_absent (hn : t.status dir = .ok n) (hdir : n.isDirectory)
    (hmanifest : n.at? [".manifest"] = none) : readManifest t dir = .ok {} := by
  cases n with
  | file | link => cases hdir
  | directory entries =>
    rw [Node.at?_singleton] at hmanifest
    have hname : IsName ".manifest" := by decide
    have hstatus := FileTree.status_child hn hname (by simp [hmanifest])
    have hpath : t.hasPath (dir.child ".manifest") = false := by
      obtain ⟨f, hf⟩ : ∃ f, t.status (dir.child ".manifest") = .error f := by
        rw [hstatus, hmanifest]
        split
        · exact ⟨_, rfl⟩
        · split <;> exact ⟨_, rfl⟩
      rw [FileTree.hasPath, hf]
    rw [child] at hpath
    have hdirectory := FileTree.isDirectory_of_status hn
    simp [readManifest, hdirectory, hdir, hpath]

/-- The files of a directory without a manifest are loaded alike, whether it is given as a data
tree, with nothing left out, or as a bundle, whatever the filter: with the same modules and data, or
with the same failure. -/
theorem load_as_bundle (ht : t.WellFormed) (hn : t.status dir = .ok n) (hdir : n.isDirectory)
    (hmanifest : n.at? [".manifest"] = none)
    (hnames : ∀ names name content, n.at? (names ++ [name]) = some (.file content) →
      NamedForBundle name) (excluded : EntryFilter) :
    load t [] [dir] excluded
      = (load t [dir] [] EntryFilter.none).map fun s => s.addBundle {} := by
  have hw : n.WellFormed := ht.locate hn
  have hvisit : ∀ o ∈ n.openings, ∀ s : SourceSet,
      visit (addBundleFile {} dir) s (dir.descend o.1, o.2)
        = visit (addTreeFile dir) s (dir.descend o.1, o.2) := by
    rintro ⟨names, o⟩ ho s
    cases o with
    | directory => rfl
    | file content =>
      have hat := (Node.mem_openings_file hw).mp ho
      have hisName := Node.isName_of_mem_openings hw ho
      rcases List.eq_nil_or_concat names with rfl | ⟨init, name, rfl⟩
      · -- the directory is no file
        rw [Node.at?] at hat
        cases hat
        cases hdir
      · rw [List.concat_eq_append] at hat hisName ⊢
        have hname : (dir.descend (init ++ [name])).fileName? = some name := by
          rw [fileName?_descend hisName, lastName?, List.getLast?_concat]
          rfl
        have hkind := ofExtension?_eq_ofBundleName? (hisName name (by simp))
          (hnames init name content hat)
        refine addBundleFile_of_kind ?_ s
        rw [hname, ofExtension?_eq hname, hkind]
        rfl
  have hopenings := openingsAt_bundle ht hn hdir
  have hfold : (n.openings.map fun o => (dir.descend o.1, o.2)).foldlM
        (visit (addBundleFile {} dir)) {}
      = (n.openings.map fun o => (dir.descend o.1, o.2)).foldlM (visit (addTreeFile dir)) {} := by
    rw [List.foldlM_map, List.foldlM_map]
    exact foldlM_congr hvisit {}
  rw [load_bundle, load_tree, addBundle, addTree, readManifest_of_absent hn hdir hmanifest,
    hopenings, ok_bind, ok_bind, ok_bind, hfold]
  cases (n.openings.map fun o => (dir.descend o.1, o.2)).foldlM (visit (addTreeFile dir)) {} <;> rfl

/-- A tree with a directory that has a module, a document below it and a file of no kind. -/
def plainTree : FileTree where
  root := .directory [("d", .directory [("m.rego", .file "package m".toUTF8),
    ("note.txt", .file "".toUTF8), ("x", .directory [("data.json", .file "\x7b\x7d".toUTF8)])])]

theorem wellFormed_plainTree : plainTree.WellFormed := by
  refine ⟨rfl, Node.wellFormed_of_names ["d"] rfl (by decide) (by decide) ?_⟩
  rw [List.forall_mem_singleton]
  refine Node.wellFormed_of_names ["m.rego", "note.txt", "x"] rfl (by decide) (by decide) ?_
  simp only [List.forall_mem_cons]
  refine ⟨.file _, .file _, ?_, nofun⟩
  refine Node.wellFormed_of_names ["data.json"] rfl (by decide) (by decide) ?_
  rw [List.forall_mem_singleton]
  exact .file _

theorem load_as_bundle_plainTree :
    load plainTree [] [⟨"d"⟩] (fun _ _ _ => true)
      = (load plainTree [⟨"d"⟩] [] EntryFilter.none).map fun s => s.addBundle {} := by
  have hsteps : Path.steps ⟨"d"⟩ = [.into "d"] := by decide
  have hn : plainTree.status ⟨"d"⟩ = .ok (.directory [("m.rego", .file "package m".toUTF8),
      ("note.txt", .file "".toUTF8),
      ("x", .directory [("data.json", .file "\x7b\x7d".toUTF8)])]) := by
    rw [FileTree.status, FileTree.locate_of_working rfl rfl (by decide), hsteps]
    simp [plainTree, FileTree.follow, Dictionary.find?]
  refine load_as_bundle wellFormed_plainTree hn rfl rfl ?_ _
  intro names name content hfile
  have hmem := (Node.mem_openings_file (wellFormed_plainTree.locate hn)).mpr hfile
  have hlast : name ∈ ["m.rego", "note.txt", "data.json"] := by
    have hnames : names ++ [name] ∈ [["m.rego"], ["note.txt"], ["x", "data.json"]] := by
      simp only [Node.openings, Node.entriesOpenings, List.map_cons, List.map_nil,
        List.cons_append, List.nil_append, List.mem_cons, List.not_mem_nil, Prod.mk.injEq,
        reduceCtorEq, and_false, false_or, or_false] at hmem ⊢
      exact hmem.imp And.left (Or.imp And.left And.left)
    have hmap := List.mem_map_of_mem (f := List.getLast?) hnames
    rw [List.getLast?_concat] at hmap
    simpa using hmap
  simp only [List.mem_cons, List.not_mem_nil, or_false] at hlast
  rcases hlast with rfl | rfl | rfl <;> exact ⟨by decide, by decide⟩

end PolicyPack
