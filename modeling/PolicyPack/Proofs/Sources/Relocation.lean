import PolicyPack.Compile
import PolicyPack.Proofs.Sources.Coded

/-!
# Building somewhere else

A build sees a file by the names that lead to it from a data path or a bundle, so it gives the same
artifact for the same sources wherever they stand, or fails with the same code. Two things look
further: the ignore patterns judge a data path by its last name, which for a path without a name of
its own is the name of the directory it starts from, and the file system limits the length of the
paths that are opened.
-/

namespace PolicyPack

open Json PolicyPack.Path

/-! ### What is opened -/

/-- A walk opens what stands at a path: a directory, or a file that is of some kind. -/
inductive IsOpened (kind? : Path → Option FileKind) (p : Path) : Node → Prop
  | directory (entries : List (String × Node)) : IsOpened kind? p (.directory entries)
  | file {content : ByteArray} (h : (kind? p).isSome) : IsOpened kind? p (.file content)

/-- Names lead from a data path to something that is opened, with no excluded entry on the way. -/
def OpenedInTree (t : FileTree) (ignore : IgnoreSet) (root : Path) (names : List String) : Prop :=
  ignore.excludes root = false ∧ (∀ name ∈ names, ignore.matchesName name = false) ∧
    ∃ n m, t.entry root = .ok n ∧ n.at? names = some m ∧
      IsOpened FileKind.ofExtension? (root.descend names) m

/-- Names lead from a bundle to something that is opened. -/
def OpenedInBundle (t : FileTree) (dir : Path) (names : List String) : Prop :=
  ∃ n m, t.status dir = .ok n ∧ n.at? names = some m ∧
    IsOpened (fun p => p.fileName?.bind FileKind.ofBundleName?) (dir.descend names) m

/-- What a build opens: its data paths and bundles, the manifests of the bundles, and what names
lead to from a data path or a bundle. -/
inductive BuildManifest.Opens (t : FileTree) (m : BuildManifest) (base : Path) :
    String → List String → Prop
  | root {p : String} (hp : p ∈ m.data ++ m.bundles) : Opens t m base p []
  | manifest {p : String} (hp : p ∈ m.bundles) : Opens t m base p [".manifest"]
  | tree {p : String} {ignore : IgnoreSet} {names : List String} (hp : p ∈ m.data)
    (hread : IgnoreSet.ofTexts m.ignore = .ok ignore)
    (h : OpenedInTree t ignore (base.join ⟨p⟩) names) : Opens t m base p names
  | bundle {p : String} {names : List String} (hp : p ∈ m.bundles)
    (h : OpenedInBundle t (base.join ⟨p⟩) names) : Opens t m base p names

/-! ### Roots -/

section Root

variable {t t' : FileTree} {base base' p : Path} {content : ByteArray} {n : Node}
  (ht : t.WellFormed) (ht' : t'.WellFormed) (h : t.status base = .ok n)
  (h' : t'.status base' = .ok n) (hn : n.LinkFree)

include ht h h' in
/-- A file below an inner path has the same last name from both directories. -/
theorem exists_lastName?_join (hp : p.IsInner) {last : Bool} {m : Node}
    (hm : t.locate last (base.join p) = .ok m) {names : List String}
    (hfile : m.at? names = some (.file content)) :
    ∃ name, lastName? (base.join p) names = some name ∧
      lastName? (base'.join p) names = some name := by
  rcases List.eq_nil_or_concat names with rfl | ⟨init, name, rfl⟩
  · rw [Node.at?] at hfile
    cases hfile
    have hbase := FileTree.text_ne_of_status h
    have hbase' := FileTree.text_ne_of_status h'
    obtain ⟨name, hname⟩ := FileTree.exists_fileName?_of_join ht hbase hp.relative hm
    refine ⟨name, ?_, ?_⟩
    · rw [lastName?, hp.fileName?_join hbase, hname]
      rfl
    · rw [lastName?, hp.fileName?_join hbase', hname]
      rfl
  · rw [List.concat_eq_append, lastName?, lastName?, List.getLast?_concat]
    exact ⟨name, rfl, rfl⟩

include h h' hn in
theorem coded_readManifest (hfit : (base.child ".manifest").FitAlike (base'.child ".manifest")) :
    coded (readManifest t base) = coded (readManifest t' base') := by
  have hinner : IsInner ⟨".manifest"⟩ := ⟨by decide, by decide⟩
  have hstatus : t.status (base.join ⟨".manifest"⟩) = t'.status (base'.join ⟨".manifest"⟩) :=
    FileTree.locate_join_eq h h' hn hinner hfit
  have hdirectory := FileTree.isDirectory_of_status h
  have hdirectory' := FileTree.isDirectory_of_status h'
  cases hm : t'.status (base'.join ⟨".manifest"⟩) with
  | error f =>
    simp only [readManifest, FileTree.hasPath, hdirectory, hdirectory', hstatus, hm]
    cases n.isDirectory <;> rfl
  | ok m =>
    simp only [readManifest, FileTree.hasPath, FileTree.readText, hdirectory, hdirectory', hstatus,
      hm, ok_bind]
    cases n.isDirectory with
    | false => rfl
    | true =>
      cases m.text with
      | error f => rfl
      | ok text =>
        simp only [Bool.not_true, Bool.false_eq_true, if_false]
        cases BundleManifest.ofText text <;> rfl

include ht ht' h h' hn

/-- A data path adds the same from both directories, if its last name is excluded from both or from
neither and what is opened of it fits alike. -/
theorem coded_addTree (hp : p.IsInner) {ignore : IgnoreSet}
    (hignore : ignore.excludes (base.join p) = ignore.excludes (base'.join p))
    (hroot : (base.join p).FitAlike (base'.join p))
    (hfit : ∀ names, OpenedInTree t ignore (base.join p) names →
      ((base.join p).descend names).FitAlike ((base'.join p).descend names)) (s : SourceSet) :
    coded (addTree t ignore.filter s (base.join p))
      = coded (addTree t' ignore.filter s (base'.join p)) := by
  have hentry : t.entry (base.join p) = t'.entry (base'.join p) :=
    FileTree.locate_join_eq h h' hn hp hroot
  cases hm : t.entry (base.join p) with
  | error f =>
    -- the two failures differ in the path they name
    have hm' := hentry.symm.trans hm
    rw [addTree, addTree, openingsAt, openingsAt, FileTree.walk, FileTree.walk, hm, hm']
    rfl
  | ok m =>
    have hm' := hentry.symm.trans hm
    have hlink := (FileTree.linkFree_locate h hn hp hm).ne_link
    have hw := ht.locate hm
    have hopenings :
        treeOpenings ignore (base.join p) m = treeOpenings ignore (base'.join p) m := by
      rw [treeOpenings, treeOpenings, hignore]
    rw [addTree, addTree, openingsAt_tree ignore ht hm hlink, openingsAt_tree ignore ht' hm' hlink,
      ok_bind, ok_bind, List.foldlM_map, List.foldlM_map, hopenings]
    apply coded_foldlM_congr
    rintro ⟨names, o⟩ ho s
    rw [← hopenings] at ho
    obtain ⟨hkept, hopened, hnames⟩ := mem_treeOpenings.mp ho
    refine coded_visit ?_ ?_
    · rintro rfl
      obtain ⟨entries, hat⟩ := (Node.mem_openings_directory hw).mp hopened
      exact hfit names ⟨hkept, hnames, m, _, hm, hat, .directory entries⟩
    · rintro content rfl
      have hat := (Node.mem_openings_file hw).mp hopened
      obtain ⟨name, hname, hname'⟩ := exists_lastName?_join ht h h' hp hm hat
      refine coded_addTreeFile (Node.isName_of_mem_openings hw hopened) hname hname' ?_ s
      exact fun hkind => hfit names ⟨hkept, hnames, m, _, hm, hat, .file hkind⟩

/-- A bundle adds the same from both directories, if its manifest and what is opened of it fit
alike. -/
theorem coded_addBundle (hp : p.IsInner) (hroot : (base.join p).FitAlike (base'.join p))
    (hmanifest : ((base.join p).child ".manifest").FitAlike ((base'.join p).child ".manifest"))
    (hfit : ∀ names, OpenedInBundle t (base.join p) names →
      ((base.join p).descend names).FitAlike ((base'.join p).descend names)) (s : SourceSet) :
    coded (addBundle t s (base.join p)) = coded (addBundle t' s (base'.join p)) := by
  have hstatus : t.status (base.join p) = t'.status (base'.join p) :=
    FileTree.locate_join_eq h h' hn hp hroot
  have hdirectory : t.isDirectory (base.join p) = t'.isDirectory (base'.join p) := by
    rw [FileTree.isDirectory, FileTree.isDirectory, hstatus]
  cases hdir : t.isDirectory (base.join p) with
  | false =>
    rw [addBundle, addBundle, readManifest_of_not_directory hdir,
      readManifest_of_not_directory (hdirectory.symm.trans hdir)]
    rfl
  | true =>
    obtain ⟨m, hm, hmdir⟩ := FileTree.isDirectory_eq_true.mp hdir
    have hm' := hstatus.symm.trans hm
    have hw := ht.locate hm
    have hfree := FileTree.linkFree_locate h hn hp hm
    rw [addBundle, addBundle, openingsAt_bundle ht hm hmdir, openingsAt_bundle ht' hm' hmdir]
    apply coded_bind_congr (coded_readManifest hm hm' hfree hmanifest)
    intro manifest
    rw [ok_bind, ok_bind, List.foldlM_map, List.foldlM_map]
    refine coded_bind_congr (coded_foldlM_congr ?_ s) fun _ => rfl
    rintro ⟨names, o⟩ hopened s
    refine coded_visit ?_ ?_
    · rintro rfl
      obtain ⟨entries, hat⟩ := (Node.mem_openings_directory hw).mp hopened
      exact hfit names ⟨m, _, hm, hat, .directory entries⟩
    · rintro content rfl
      have hat := (Node.mem_openings_file hw).mp hopened
      obtain ⟨name, hname, hname'⟩ := exists_lastName?_join ht h h' hp hm hat
      refine coded_addBundleFile (Node.isName_of_mem_openings hw hopened) hname hname' ?_ manifest s
      exact fun hkind => hfit names ⟨m, _, hm, hat, .file hkind⟩

end Root

/-! ### Two checkouts -/

/-- A tree with two directories at the top that hold the same. -/
def twoCheckouts (n : Node) : FileTree where
  root := .directory [("a", n), ("b", n)]

/-- A directory with a data file. -/
def checkout (text : String) : Node := .directory [("x.json", .file text.toUTF8)]

/-- A build of the directory itself, but for what patterns match. -/
def wholeManifest (patterns : List String) : BuildManifest where
  version := 1
  query := "data"
  data := ["."]
  ignore := patterns

theorem wellFormed_checkout (text : String) : (checkout text).WellFormed := by
  refine Node.wellFormed_of_names ["x.json"] rfl (by decide) (by decide) ?_
  rw [List.forall_mem_singleton]
  exact .file _

theorem linkFree_checkout (text : String) : (checkout text).LinkFree := by
  refine .directory ?_
  rw [List.forall_mem_singleton]
  exact .file _

theorem wellFormed_twoCheckouts {n : Node} (h : n.WellFormed) : (twoCheckouts n).WellFormed := by
  refine ⟨rfl, Node.wellFormed_of_names ["a", "b"] rfl (by decide) (by decide) ?_⟩
  simp only [List.forall_mem_cons]
  exact ⟨h, h, nofun⟩

theorem status_twoCheckouts (text : String) {name : String} (hname : name ∈ ["a", "b"]) {k : Nat}
    (hk : k < 4094) : (twoCheckouts (checkout text)).status (slashed k name)
      = .ok (checkout text) := by
  have hn := (linkFree_checkout text).ne_link
  simp only [List.mem_cons, List.not_mem_nil, or_false] at hname
  have hlimit : k + 1 + 1 ≤ FileTree.pathLimit := by
    unfold FileTree.pathLimit
    omega
  rcases hname with rfl | rfl
  · exact FileTree.status_slashed rfl (by decide) (by decide) rfl hn hlimit
  · exact FileTree.status_slashed rfl (by decide) (by decide) rfl hn hlimit

/-- The two directories under their plain paths. -/
theorem status_plain (text : String) :
    (twoCheckouts (checkout text)).status ⟨"/a"⟩ = .ok (checkout text) ∧
      (twoCheckouts (checkout text)).status ⟨"/b"⟩ = .ok (checkout text) := by
  have hslash : slashed 0 "a" = ⟨"/a"⟩ ∧ slashed 0 "b" = ⟨"/b"⟩ := by decide
  rw [← hslash.1, ← hslash.2]
  exact ⟨status_twoCheckouts text (by decide) (by decide),
    status_twoCheckouts text (by decide) (by decide)⟩

/-! ### Builds -/

/-- A path is excluded alike from both directories, if it has a name of its own or if the
directories are excluded alike. -/
theorem excludes_join {base base' : Path} (hbase : base.text ≠ "") (hbase' : base'.text ≠ "")
    (hp : p.IsInner) {ignore : IgnoreSet}
    (h : p.fileName? = none → ignore.excludes base = ignore.excludes base') :
    ignore.excludes (base.join p) = ignore.excludes (base'.join p) := by
  cases hname : p.fileName? with
  | none =>
    have hself := h hname
    unfold IgnoreSet.excludes at hself ⊢
    rwa [hp.fileName?_join hbase, hp.fileName?_join hbase', hname, Option.none_or, Option.none_or]
  | some name =>
    unfold IgnoreSet.excludes
    rw [hp.fileName?_join hbase, hp.fileName?_join hbase', hname, Option.some_or, Option.some_or]

theorem map_from (base : Path) {paths : List String} (h : ∀ p ∈ paths, IsInner ⟨p⟩) :
    (paths.map fun p => Path.from base ⟨p⟩) = (paths.map Path.mk).map base.join := by
  rw [List.map_map]
  refine List.map_congr_left fun p hp => ?_
  rw [Path.from, (h p hp).relative]
  rfl

/-- A manifest whose paths are relative and never step up builds the same wherever its directory
stands: the same artifact from two directories that hold the same, without links, or failures of one
code. For this a data path that names the directory itself has to be excluded from both or from
neither, and of what the build opens the limit on the length of paths has to keep out the same. -/
theorem buildManifest_relocated {t t' : FileTree} {base base' : Path} {n : Node}
    {m : BuildManifest} (ht : t.WellFormed) (ht' : t'.WellFormed) (h : t.status base = .ok n)
    (h' : t'.status base' = .ok n) (hn : n.LinkFree)
    (hpaths : ∀ p ∈ m.data ++ m.bundles, IsInner ⟨p⟩)
    (hignore : ∀ ignore, IgnoreSet.ofTexts m.ignore = .ok ignore → ∀ p ∈ m.data,
      fileName? ⟨p⟩ = none → ignore.excludes base = ignore.excludes base')
    (hfit : ∀ p names, m.Opens t base p names →
      ((base.join ⟨p⟩).descend names).FitAlike ((base'.join ⟨p⟩).descend names)) :
    (∃ a, buildManifest t m base = .ok a ∧ buildManifest t' m base' = .ok a) ∨
      ∃ f f', buildManifest t m base = .error f ∧ buildManifest t' m base' = .error f' ∧
        f.code = f'.code := by
  have hdata : ∀ p ∈ m.data, IsInner ⟨p⟩ := fun p hp => hpaths p (List.mem_append_left _ hp)
  have hbundles : ∀ p ∈ m.bundles, IsInner ⟨p⟩ := fun p hp => hpaths p (List.mem_append_right _ hp)
  have htrees (ignore : IgnoreSet) (hread : IgnoreSet.ofTexts m.ignore = .ok ignore)
      (s : SourceSet) :
      coded (((m.data.map Path.mk).map base.join).foldlM (addTree t ignore.filter) s)
        = coded (((m.data.map Path.mk).map base'.join).foldlM (addTree t' ignore.filter) s) := by
    simp only [List.foldlM_map]
    refine coded_foldlM_congr (fun p hp s => ?_) s
    have hexcludes := excludes_join (FileTree.text_ne_of_status h) (FileTree.text_ne_of_status h')
      (hdata p hp) (hignore ignore hread p hp)
    have hroot := hfit p [] (.root (List.mem_append_left _ hp))
    exact coded_addTree ht ht' h h' hn (hdata p hp) hexcludes hroot
      (fun names hopened => hfit p names (.tree hp hread hopened)) s
  have hdirs (s : SourceSet) :
      coded (((m.bundles.map Path.mk).map base.join).foldlM (addBundle t) s)
        = coded (((m.bundles.map Path.mk).map base'.join).foldlM (addBundle t') s) := by
    simp only [List.foldlM_map]
    refine coded_foldlM_congr (fun p hp s => ?_) s
    have hroot := hfit p [] (.root (List.mem_append_right _ hp))
    exact coded_addBundle ht ht' h h' hn (hbundles p hp) hroot (hfit p [".manifest"] (.manifest hp))
      (fun names hopened => hfit p names (.bundle hp hopened)) s
  apply coded_eq_iff.mp
  unfold buildManifest build
  apply coded_bind_congr rfl
  intro _
  simp only [map_from _ hdata, map_from _ hbundles]
  -- patterns that cannot be read fail before any path is looked at
  cases hread : IgnoreSet.ofTexts m.ignore with
  | error f => rfl
  | ok ignore =>
    rw [ok_bind, ok_bind, load, load]
    exact coded_bind_congr (coded_bind_congr (htrees ignore hread {}) hdirs) fun _ => rfl

/-- The path of a directory with a point after it leads to the directory, unless it is too long. -/
theorem entry_here {t : FileTree} {base : Path} {entries : List (String × Node)}
    (h : t.status base = .ok (.directory entries)) :
    t.entry (base.join ⟨"."⟩) =
      if FileTree.pathLimit < (base.join ⟨"."⟩).text.utf8ByteSize then .error .tooLong
      else .ok (.directory entries) := by
  have hsteps : Path.steps ⟨"."⟩ = [.stay] := by decide
  have hp : isAbsolute ⟨"."⟩ = false := by decide
  have hzero : '\x00' ∉ (base.join ⟨"."⟩).text.toList := by
    rw [FileTree.zero_mem_join h hp]
    decide
  obtain ⟨links, above, hlocate⟩ := FileTree.locate_join (FileTree.text_ne_of_status h) hp h
  rw [FileTree.entry, hlocate, if_neg hzero, hsteps, FileTree.follow, FileTree.follow]

/-- Names that lead to something in the directory are none, or lead to its file. -/
theorem names_of_at?_checkout {text : String} {names : List String} {m : Node}
    (h : (checkout text).at? names = some m) : names ∈ [[], ["x.json"]] := by
  cases names with
  | nil => exact List.mem_cons_self ..
  | cons name names =>
    rw [checkout, Node.at?] at h
    obtain ⟨n, hn, h⟩ := Option.bind_eq_some_iff.mp h
    obtain ⟨rfl, rfl⟩ : "x.json" = name ∧ Node.file text.toUTF8 = n := by
      simpa [Dictionary.find?, eq_comm] using hn
    cases names with
    | nil => simp
    | cons name names => cases h

/-- A build of the directory itself, as data and as a bundle. -/
def twofoldManifest : BuildManifest := { wholeManifest [] with bundles := ["."] }

theorem buildManifest_relocated_twofold :
    (∃ a, buildManifest (twoCheckouts (checkout "\x7b\x7d")) twofoldManifest ⟨"/a"⟩ = .ok a ∧
      buildManifest (twoCheckouts (checkout "\x7b\x7d")) twofoldManifest (slashed 5 "b") = .ok a) ∨
    ∃ f f', buildManifest (twoCheckouts (checkout "\x7b\x7d")) twofoldManifest ⟨"/a"⟩ = .error f ∧
      buildManifest (twoCheckouts (checkout "\x7b\x7d")) twofoldManifest (slashed 5 "b")
        = .error f' ∧ f.code = f'.code := by
  have ht := wellFormed_twoCheckouts (wellFormed_checkout "\x7b\x7d")
  have hfree := linkFree_checkout "\x7b\x7d"
  have ha := (status_plain "\x7b\x7d").1
  have hb := status_twoCheckouts "\x7b\x7d" (by decide : "b" ∈ ["a", "b"]) (by decide : 5 < 4094)
  refine buildManifest_relocated ht ht ha hb hfree (by decide) ?_ ?_
  · intro ignore hignore p _ _
    obtain rfl : IgnoreSet.empty = ignore := Except.ok.inj hignore
    rw [IgnoreSet.excludes_empty, IgnoreSet.excludes_empty]
  · have hentry := (entry_here ha).trans (if_neg (by decide))
    have hstatus := FileTree.status_of_entry hentry hfree.ne_link
    have hall : ∀ names ∈ [[], [".manifest"], ["x.json"]],
        ((Path.join ⟨"/a"⟩ ⟨"."⟩).descend names).FitAlike
          (((slashed 5 "b").join ⟨"."⟩).descend names) := by
      decide +kernel
    have hpoint {p : String} (hp : p ∈ ["."]) {names : List String}
        (hnames : names ∈ [[], [".manifest"], ["x.json"]]) :
        ((Path.join ⟨"/a"⟩ ⟨p⟩).descend names).FitAlike
          (((slashed 5 "b").join ⟨p⟩).descend names) := by
      obtain rfl := List.mem_singleton.mp hp
      exact hall names hnames
    have hbelow {names : List String} {m : Node}
        (h : (checkout "\x7b\x7d").at? names = some m) :
        names ∈ [[], [".manifest"], ["x.json"]] := by
      have hnames := names_of_at?_checkout h
      grind
    intro p names hopens
    cases hopens with
    | root hp => exact hpoint ((List.mem_append.mp hp).elim id id) (by simp)
    | manifest hp => exact hpoint hp (by simp)
    | tree hp _ h =>
      obtain rfl := List.mem_singleton.mp hp
      obtain ⟨-, -, n, m, hn, hat, -⟩ := h
      cases hentry.symm.trans hn
      exact hpoint hp (hbelow hat)
    | bundle hp h =>
      obtain rfl := List.mem_singleton.mp hp
      obtain ⟨n, m, hn, hat, -⟩ := h
      cases hstatus.symm.trans hn
      exact hpoint hp (hbelow hat)

/-! ### What a build sees of its place -/

theorem buildManifest_whole (t : FileTree) (base : Path) {patterns : List String}
    {ignore : IgnoreSet} (hread : IgnoreSet.ofTexts patterns = .ok ignore)
    (hpatterns : patterns.any String.isEmpty = false) :
    buildManifest t (wholeManifest patterns) base
      = addTree t ignore.filter {} (base.join ⟨"."⟩) >>= compileSources "data" := by
  have hvalid : (wholeManifest patterns).validate = .ok () := by
    have hquery : Text.isBlank "data" = false := by decide +kernel
    simp [BuildManifest.validate, wholeManifest, BuildManifest.supportedVersion, hquery, hpatterns]
  have hfrom : Path.from base ⟨"."⟩ = base.join ⟨"."⟩ := rfl
  rw [buildManifest, hvalid, ok_bind]
  simp only [wholeManifest, List.map_cons, List.map_nil, hfrom, build, hread, ok_bind, load_tree]

theorem addTree_of_excluded {t : FileTree} {root : Path} {n : Node} {ignore : IgnoreSet}
    (ht : t.WellFormed) (hn : t.entry root = .ok n) (hlink : ∀ target, n ≠ .link target)
    (h : ignore.excludes root = true) (s : SourceSet) :
    addTree t ignore.filter s root = .ok s := by
  rw [addTree, openingsAt_tree ignore ht hn hlink, treeOpenings, h]
  rfl

section Checkout

variable {t : FileTree} {root : Path} {ignore : IgnoreSet} {text : String} (ht : t.WellFormed)
  (hn : t.entry root = .ok (checkout text)) (hroot : ignore.excludes root = false)
  (hname : ignore.keeps ["x.json"] = true)

include ht hn hroot hname

/-- The file of a directory that is walked is taken in. -/
theorem addTree_checkout (s : SourceSet) : addTree t ignore.filter s root =
    sourceText (root.child "x.json") text.toUTF8 >>= fun source =>
      readDocument (root.child "x.json") .json source >>= fun doc =>
        s.withData [] doc (root.child "x.json") := by
  have hself : ignore.keeps [] = true := rfl
  have hopenings : treeOpenings ignore root (checkout text)
      = [([], .directory), (["x.json"], .file text.toUTF8)] := by
    simp [treeOpenings, hroot, hname, hself, checkout, Node.openings, Node.entriesOpenings]
  have hisName : ∀ name ∈ ["x.json"], IsName name := by decide
  have hkind : FileKind.ofExtension? (root.descend ["x.json"]) = some (.data .json) := by
    rw [ofExtension?_eq (fileName?_descend hisName)]
    decide +kernel
  have hkeys : directoryKeys root (root.descend ["x.json"]) = [] :=
    directoryKeys_descend root hisName
  have hdirectory : visit (addTreeFile root) s (root.descend [], .directory) = .ok s := by
    rw [visit, openDirectory, descend_nil,
      FileTree.checkLength_eq_ok.mpr (FileTree.size_le_of_locate hn)]
    rfl
  rw [addTree, openingsAt_tree ignore ht hn (linkFree_checkout text).ne_link, hopenings, ok_bind,
    List.map_cons, List.foldlM_cons, hdirectory, ok_bind, List.map_singleton, List.foldlM_cons,
    visit, addTreeFile]
  simp only [hkind, hkeys, List.foldlM_nil]
  exact bind_pure _

/-- A file that has no text, or whose text is no document, fails the walk. -/
theorem exists_addTree_error (hfault : ∀ source,
      sourceText (root.child "x.json") text.toUTF8 = .ok source →
        (Value.ofText source).toOption.isNone = true) (s : SourceSet) :
    ∃ f, addTree t ignore.filter s root = .error f := by
  rw [addTree_checkout ht hn hroot hname]
  refine bind_fails fun source hsource => ?_
  obtain ⟨f, hf⟩ := exists_error_of_isNone (hfault source hsource)
  simp only [readDocument, hf, error_bind]
  exact ⟨_, rfl⟩

end Checkout

theorem exists_compileSources_empty : ∃ a, compileSources "data" {} = .ok a :=
  exists_ok_of_isSome (by decide +kernel)

/-- The pattern that is the name of one checkout leaves out this one and nothing else. -/
theorem exists_ofTexts_checkout : ∃ ignore, IgnoreSet.ofTexts ["a"] = .ok ignore ∧
    ignore.excludes ⟨"/a/."⟩ = true ∧ ignore.excludes ⟨"/b/."⟩ = false ∧
    ignore.keeps ["x.json"] = true := by
  have hread : (IgnoreSet.ofTexts ["a"]).toOption.map (fun ignore => (ignore.excludes ⟨"/a/."⟩,
      ignore.excludes ⟨"/b/."⟩, ignore.keeps ["x.json"])) = some (true, false, true) := by
    decide +kernel
  cases hignore : IgnoreSet.ofTexts ["a"] with
  | error f => simp [hignore, Except.toOption] at hread
  | ok ignore =>
    refine ⟨ignore, rfl, ?_⟩
    simpa [hignore, Except.toOption] using hread

/-- A checkout whose own name is excluded has no files. -/
theorem exists_build_excluded (text : String) :
    ∃ a, buildManifest (twoCheckouts (checkout text)) (wholeManifest ["a"]) ⟨"/a"⟩ = .ok a := by
  obtain ⟨ignore, hignore, hexcluded, -⟩ := exists_ofTexts_checkout
  obtain ⟨a, hcompile⟩ := exists_compileSources_empty
  have hentry := (entry_here (status_plain text).1).trans (if_neg (by decide))
  have hempty := addTree_of_excluded (wellFormed_twoCheckouts (wellFormed_checkout text)) hentry
    (linkFree_checkout text).ne_link hexcluded {}
  exact ⟨a, by rw [buildManifest_whole _ _ hignore rfl, hempty, ok_bind, hcompile]⟩

/-- The same checkout under another name is walked, and a file in it that is no document fails. -/
theorem exists_build_fault :
    ∃ f, buildManifest (twoCheckouts (checkout "")) (wholeManifest ["a"]) ⟨"/b"⟩ = .error f := by
  obtain ⟨ignore, hignore, -, hkept, hkeeps⟩ := exists_ofTexts_checkout
  have hentry := (entry_here (status_plain "").2).trans (if_neg (by decide))
  obtain ⟨f, hfault⟩ := exists_addTree_error (wellFormed_twoCheckouts (wellFormed_checkout ""))
    hentry hkept hkeeps (fun source hsource => by
      obtain rfl : "" = source := String.toByteArray_inj.mp (sourceText_eq_ok.mp hsource).2
      decide +kernel) {}
  exact ⟨f, by rw [buildManifest_whole _ _ hignore rfl, hfault, error_bind]⟩

/-- A checkout whose path is as long as paths can be is not gone on from. -/
theorem exists_build_beyond (text : String) : ∃ f,
    buildManifest (twoCheckouts (checkout text)) (wholeManifest ["a"]) (slashed 4093 "a")
      = .error f := by
  obtain ⟨ignore, hignore, -⟩ := exists_ofTexts_checkout
  have hsize := le_size_join (slashed 4093 "a") (p := ⟨"."⟩) (by decide)
  rw [size_slashed] at hsize
  have hstatus := status_twoCheckouts text (by decide : "a" ∈ ["a", "b"]) (Nat.lt_succ_self 4093)
  have hentry := (entry_here hstatus).trans (if_pos hsize)
  rw [buildManifest_whole _ _ hignore rfl, addTree, openingsAt, FileTree.walk, hentry]
  exact ⟨_, rfl⟩

theorem ofTexts_nil : IgnoreSet.ofTexts [] = .ok IgnoreSet.empty := rfl

theorem exists_build_document : ∃ a,
    buildManifest (twoCheckouts (checkout "\x7b\x7d")) (wholeManifest []) ⟨"/a"⟩ = .ok a := by
  obtain ⟨a, hcompile⟩ := exists_compileSources_empty
  have hentry := (entry_here (status_plain "\x7b\x7d").1).trans (if_neg (by decide))
  have htext : sourceText ((Path.join ⟨"/a"⟩ ⟨"."⟩).child "x.json") "\x7b\x7d".toUTF8
      = .ok "\x7b\x7d" := sourceText_eq_ok.mpr ⟨by decide, rfl⟩
  have hadded := addTree_checkout (wellFormed_twoCheckouts (wellFormed_checkout _)) hentry
    (IgnoreSet.excludes_empty _) (IgnoreSet.keeps_empty _) {}
  have hdoc (p : Path) : readDocument p .json "\x7b\x7d" = .ok (.object []) := rfl
  have hnothing (p : Path) : SourceSet.withData {} [] (.object []) p = .ok {} := rfl
  rw [htext, ok_bind, hdoc, ok_bind, hnothing] at hadded
  exact ⟨a, by rw [buildManifest_whole _ _ ofTexts_nil rfl, hadded, ok_bind, hcompile]⟩

/-- A checkout can be near enough to the limit for its directory to be opened, but no file in it. -/
theorem entry_near (text : String) :
    (twoCheckouts (checkout text)).entry ((slashed 4090 "a").join ⟨"."⟩) = .ok (checkout text) := by
  have hsize := size_join_le (slashed 4090 "a") (p := ⟨"."⟩) (by decide)
  rw [size_slashed] at hsize
  have hstatus := status_twoCheckouts text (by decide : "a" ∈ ["a", "b"])
    (by decide : 4090 < 4094)
  exact (entry_here hstatus).trans (if_neg (Nat.not_lt.mpr (Nat.le_trans hsize (by decide))))

theorem exists_build_near (text : String) : ∃ f,
    buildManifest (twoCheckouts (checkout text)) (wholeManifest []) (slashed 4090 "a")
      = .error f := by
  have hsize := le_size_join (slashed 4090 "a") (p := ⟨"."⟩) (by decide)
  have hbelow := le_size_join ((slashed 4090 "a").join ⟨"."⟩)
    (isAbsolute_of_isName (by decide : IsName "x.json"))
  rw [size_slashed] at hsize
  have hlong : FileTree.pathLimit
      < (((slashed 4090 "a").join ⟨"."⟩).child "x.json").text.utf8ByteSize :=
    Nat.lt_of_lt_of_le (by decide) (Nat.le_trans (Nat.add_le_add_right hsize _) hbelow)
  obtain ⟨f, hfault⟩ := exists_addTree_error (wellFormed_twoCheckouts (wellFormed_checkout text))
    (entry_near text) (IgnoreSet.excludes_empty _) (IgnoreSet.keeps_empty _)
    (fun source hsource => absurd (sourceText_eq_ok.mp hsource).1 (Nat.not_le.mpr hlong)) {}
  exact ⟨f, by rw [buildManifest_whole _ _ ofTexts_nil rfl, hfault, error_bind]⟩

/-- Two checkouts of one directory can build differently: one whose own name is excluded has no
files, so it builds where the other fails, one whose path is too long to be gone on from fails where
the other builds, and so does one whose path can be gone on from, but not as far as to a file. -/
theorem buildManifest_sees_place :
    (∀ text, (twoCheckouts (checkout text)).WellFormed ∧ (checkout text).LinkFree ∧
      ∀ base ∈ [⟨"/a"⟩, ⟨"/b"⟩, slashed 4090 "a", slashed 4093 "a"], isAbsolute base ∧
        (twoCheckouts (checkout text)).status base = .ok (checkout text)) ∧
    (∀ p ∈ (wholeManifest ["a"]).data ++ (wholeManifest []).data, IsInner ⟨p⟩) ∧
    (∃ a, buildManifest (twoCheckouts (checkout "")) (wholeManifest ["a"]) ⟨"/a"⟩ = .ok a) ∧
    (∃ f, buildManifest (twoCheckouts (checkout "")) (wholeManifest ["a"]) ⟨"/b"⟩ = .error f) ∧
    (∃ f, buildManifest (twoCheckouts (checkout "")) (wholeManifest ["a"]) (slashed 4093 "a")
      = .error f) ∧
    (∃ a, buildManifest (twoCheckouts (checkout "\x7b\x7d")) (wholeManifest []) ⟨"/a"⟩ = .ok a) ∧
    (twoCheckouts (checkout "\x7b\x7d")).entry ((slashed 4090 "a").join ⟨"."⟩)
      = .ok (checkout "\x7b\x7d") ∧
    ∃ f, buildManifest (twoCheckouts (checkout "\x7b\x7d")) (wholeManifest []) (slashed 4090 "a")
      = .error f := by
  refine ⟨fun text => ⟨wellFormed_twoCheckouts (wellFormed_checkout text), linkFree_checkout text,
    ?_⟩, by decide, exists_build_excluded _, exists_build_fault, exists_build_beyond _,
    exists_build_document, entry_near _, exists_build_near _⟩
  obtain ⟨ha, hb⟩ := status_plain text
  have hlong {k : Nat} (hk : k < 4094) :=
    status_twoCheckouts text (by decide : "a" ∈ ["a", "b"]) hk
  simp only [List.forall_mem_cons]
  exact ⟨⟨rfl, ha⟩, ⟨rfl, hb⟩, ⟨isAbsolute_slashed .., hlong (by decide)⟩,
    ⟨isAbsolute_slashed .., hlong (by decide)⟩, List.forall_mem_nil _⟩

end PolicyPack
