import PolicyPack.Proofs.Sources.Assembly
import PolicyPack.Proofs.Yaml.ReadData

/-!
# Loading in any order

What a data tree or a bundle adds to a source set is read from the files alone, and does not depend
on what is in the set already. So a load is a reading of all trees and bundles, followed by the
assembly of what was read, and the order of the trees and of the bundles does not matter.
-/

namespace PolicyPack

open Json

/-! ### What files add -/

/-- What a file of a data tree adds, once it has been read. -/
def treeAddition (root : Path) (f : Path × ByteArray) : Except Failure (List Addition) := do
  match FileKind.ofExtension? f.1 with
  | none => return []
  | some .policy =>
    let source ← sourceText f.1 f.2
    let _ ← readModule f.1 source
    return [.module (moduleKey root f.1) source]
  | some (.data format) =>
    let doc ← readDocument f.1 format (← sourceText f.1 f.2)
    return [.document (directoryKeys root f.1) doc f.1]

/-- What a file of a bundle adds, once it has been read and found to be the bundle's own. -/
def bundleAddition (m : BundleManifest) (dir : Path) (f : Path × ByteArray) :
    Except Failure (List Addition) := do
  match f.1.fileName?.bind FileKind.ofBundleName? with
  | none => return []
  | some .policy =>
    let source ← sourceText f.1 f.2
    let package := (← readModule f.1 source).packageName
    if !m.ownsPackage package then throw (.load (.packageOutsideRoots f.1 package))
    return [.module (moduleKey dir f.1) source]
  | some (.data format) =>
    let keys := directoryKeys dir f.1
    let doc ← readDocument f.1 format (← sourceText f.1 f.2)
    checkPlaces m keys doc f.1
    return [.document keys doc f.1]

/-- What is added by what a walk opens, once it has been opened. A directory adds nothing. -/
def openingAddition (read : Path × ByteArray → Except Failure (List Addition)) :
    Path × Opening → Except Failure (List Addition)
  | (p, .directory) => do
    openDirectory p
    return []
  | (p, .file content) => read (p, content)

/-- What a data tree adds. -/
def treeAdditions (t : FileTree) (excluded : EntryFilter) (root : Path) :
    Except Failure (List Addition) := do
  return (← (← openingsAt t excluded root).mapM (openingAddition (treeAddition root))).flatten

/-- The manifest of a bundle, and what the bundle adds. -/
def bundleAdditions (t : FileTree) (dir : Path) :
    Except Failure (BundleManifest × List Addition) := do
  let m ← readManifest t dir
  let openings ← openingsAt t EntryFilter.none dir
  return (m, (← openings.mapM (openingAddition (bundleAddition m dir))).flatten)

theorem foldlM_apply_singleton (s : SourceSet) (a : Addition) :
    [a].foldlM Addition.apply s = a.apply s := by
  rw [List.foldlM_cons]
  exact bind_pure (a.apply s)

theorem addTreeFile_eq (root : Path) (s : SourceSet) (f : Path × ByteArray) :
    addTreeFile root s f = treeAddition root f >>= fun l => l.foldlM Addition.apply s := by
  unfold addTreeFile treeAddition
  cases FileKind.ofExtension? f.1 with
  | none => rfl
  | some kind =>
    cases kind with
    | policy =>
      simp only [bind_assoc, pure_bind, foldlM_apply_singleton]
      rfl
    | data format =>
      simp only [bind_assoc, pure_bind, foldlM_apply_singleton]
      rfl

theorem addBundleFile_eq (m : BundleManifest) (dir : Path) (s : SourceSet)
    (f : Path × ByteArray) :
    addBundleFile m dir s f = bundleAddition m dir f >>= fun l => l.foldlM Addition.apply s := by
  unfold addBundleFile bundleAddition
  cases f.1.fileName?.bind FileKind.ofBundleName? with
  | none => rfl
  | some kind =>
    cases kind with
    | policy =>
      simp only [bind_assoc]
      refine bind_congr fun source => bind_congr fun parsed => ?_
      split
      · rfl
      · simp only [pure_bind, foldlM_apply_singleton]
        rfl
    | data format =>
      simp only [bind_assoc, pure_bind, foldlM_apply_singleton]
      rfl

/-- A visit is a reading followed by adding what was read, if taking in a file is. -/
theorem visit_eq {takeIn : SourceSet → Path × ByteArray → Except Failure SourceSet}
    {read : Path × ByteArray → Except Failure (List Addition)}
    (h : ∀ s f, takeIn s f = read f >>= fun l => l.foldlM Addition.apply s) (s : SourceSet)
    (o : Path × Opening) :
    visit takeIn s o = openingAddition read o >>= fun l => l.foldlM Addition.apply s := by
  obtain ⟨p, o⟩ := o
  cases o with
  | file content => exact h s (p, content)
  | directory => simp [visit, openingAddition, bind_assoc]

/-! ### Trees -/

theorem addTree_eq_ok {t : FileTree} {excluded : EntryFilter} {root : Path} {s u : SourceSet} :
    addTree t excluded s root = .ok u ↔
      ∃ l, treeAdditions t excluded root = .ok l ∧ l.foldlM Addition.apply s = .ok u := by
  have hfold := foldlM_read (visit (addTreeFile root)) (openingAddition (treeAddition root))
    Addition.apply fun s o u => by rw [visit_eq (addTreeFile_eq root), bind_eq_ok]
  unfold addTree treeAdditions
  cases openingsAt t excluded root with
  | error f => simp
  | ok openings =>
    rw [ok_bind, ok_bind, hfold]
    constructor
    · rintro ⟨r, hr, hu⟩
      exact ⟨r.flatten, by rw [hr]; rfl, hu⟩
    · rintro ⟨l, hl, hu⟩
      obtain ⟨r, hr, hl⟩ := bind_eq_ok.mp hl
      cases hl
      exact ⟨r, hr, hu⟩

/-! ### Bundles -/

/-- Adding does not look at the manifests, and keeps them. -/
theorem Addition.apply_bundles (s : SourceSet) (b : List BundleManifest) (a : Addition) :
    a.apply { s with bundles := b } = (a.apply s).map fun u => { u with bundles := b } := by
  cases a with
  | module key source =>
    simp only [apply, SourceSet.addModule]
    cases Dictionary.find? key s.modules <;> rfl
  | document keys doc origin =>
    simp only [apply, SourceSet.withData, SourceSet.mergeData]
    cases nestUnder keys doc with
    | object entries =>
      simp only
      cases mergeEntries s.data entries with
      | mk data conflict => cases conflict <;> rfl
    | _ => rfl

theorem foldlM_apply_bundles (l : List Addition) (s : SourceSet) (b : List BundleManifest) :
    l.foldlM Addition.apply { s with bundles := b }
      = (l.foldlM Addition.apply s).map fun u => { u with bundles := b } := by
  induction l generalizing s with
  | nil => rfl
  | cons a l ih =>
    rw [List.foldlM_cons, List.foldlM_cons, Addition.apply_bundles]
    cases a.apply s with
    | error f => rfl
    | ok u => exact ih u

theorem bundles_of_foldlM_apply {l : List Addition} {s u : SourceSet}
    (h : l.foldlM Addition.apply s = .ok u) : u.bundles = s.bundles := by
  have hself := foldlM_apply_bundles l s s.bundles
  rw [show { s with bundles := s.bundles } = s from rfl, h, map_ok] at hself
  rw [Except.ok.inj hself]

theorem addBundle_eq_ok {t : FileTree} {dir : Path} {s u : SourceSet} :
    addBundle t s dir = .ok u ↔
      ∃ m l v, bundleAdditions t dir = .ok (m, l) ∧ l.foldlM Addition.apply s = .ok v ∧
        u = v.addBundle m := by
  unfold addBundle bundleAdditions
  cases readManifest t dir with
  | error f => simp
  | ok m =>
    have hfold := foldlM_read (visit (addBundleFile m dir))
      (openingAddition (bundleAddition m dir)) Addition.apply
      fun s o u => by rw [visit_eq (addBundleFile_eq m dir), bind_eq_ok]
    cases openingsAt t EntryFilter.none dir with
    | error f => simp
    | ok openings =>
      simp only [ok_bind]
      constructor
      · intro h
        obtain ⟨v, hv, hu⟩ := bind_eq_ok.mp h
        cases hu
        obtain ⟨r, hr, hv⟩ := (hfold _ _ _).mp hv
        exact ⟨m, r.flatten, v, by rw [hr]; rfl, hv, rfl⟩
      · rintro ⟨m', l, v, hl, hv, rfl⟩
        obtain ⟨r, hr, hl⟩ := bind_eq_ok.mp hl
        cases hl
        exact bind_eq_ok.mpr ⟨v, (hfold _ _ _).mpr ⟨r, hr, hv⟩, rfl⟩

theorem foldlM_addBundle {t : FileTree} {dirs : List Path} {s u : SourceSet} :
    dirs.foldlM (addBundle t) s = .ok u ↔
      ∃ bs v, dirs.mapM (bundleAdditions t) = .ok bs ∧
        (bs.map Prod.snd).flatten.foldlM Addition.apply s = .ok v ∧
        u = { v with bundles := s.bundles ++ bs.map Prod.fst } := by
  induction dirs generalizing s u with
  | nil =>
    constructor
    · intro h
      cases h
      exact ⟨[], s, rfl, rfl, by simp⟩
    · rintro ⟨bs, v, hbs, hv, rfl⟩
      cases hbs
      cases hv
      simp
  | cons dir dirs ih =>
    rw [List.foldlM_cons, List.mapM_cons]
    constructor
    · intro h
      obtain ⟨w, hw, h⟩ := bind_eq_ok.mp h
      obtain ⟨m, l, v, hl, hv, rfl⟩ := addBundle_eq_ok.mp hw
      obtain ⟨bs, x, hbs, hx, rfl⟩ := ih.mp h
      rw [SourceSet.addBundle, foldlM_apply_bundles] at hx
      obtain ⟨y, hy, rfl⟩ := map_eq_ok.mp hx
      refine ⟨(m, l) :: bs, y, by rw [hl, hbs]; rfl, ?_, ?_⟩
      · rw [List.map_cons, List.flatten_cons, List.foldlM_append, hv]
        exact hy
      · simp [SourceSet.addBundle, bundles_of_foldlM_apply hv]
    · rintro ⟨bs', y, hbs', hy, rfl⟩
      obtain ⟨⟨m, l⟩, hl, hbs'⟩ := bind_eq_ok.mp hbs'
      obtain ⟨bs, hbs, hbs'⟩ := bind_eq_ok.mp hbs'
      cases hbs'
      rw [List.map_cons, List.flatten_cons, List.foldlM_append] at hy
      obtain ⟨v, hv, hy⟩ := bind_eq_ok.mp hy
      refine bind_eq_ok.mpr ⟨v.addBundle m, addBundle_eq_ok.mpr ⟨m, l, v, hl, hv, rfl⟩,
        ih.mpr ⟨bs, { y with bundles := v.bundles ++ [m] }, hbs, ?_, ?_⟩⟩
      · rw [SourceSet.addBundle, foldlM_apply_bundles, hy]
        rfl
      · simp [SourceSet.addBundle, bundles_of_foldlM_apply hv]

theorem load_bundle (t : FileTree) (dir : Path) (excluded : EntryFilter) :
    load t [] [dir] excluded = addBundle t {} dir := by
  rw [load, List.foldlM_nil, pure_bind, List.foldlM_cons]
  exact bind_pure _

theorem load_tree (t : FileTree) (root : Path) (excluded : EntryFilter) :
    load t [root] [] excluded = addTree t excluded {} root := by
  rw [load, List.foldlM_cons]
  exact (bind_pure _).trans (bind_pure _)

/-- A load reads what all trees and bundles add, and assembles it. -/
theorem load_eq_ok {t : FileTree} {data bundles : List Path} {excluded : EntryFilter}
    {s : SourceSet} :
    load t data bundles excluded = .ok s ↔
      ∃ trees bs u, data.mapM (treeAdditions t excluded) = .ok trees ∧
        bundles.mapM (bundleAdditions t) = .ok bs ∧
        assemble (trees.flatten ++ (bs.map Prod.snd).flatten) = .ok u ∧
        s = { u with bundles := bs.map Prod.fst } := by
  have hfold := foldlM_read (addTree t excluded) (treeAdditions t excluded) Addition.apply
    fun _ _ _ => addTree_eq_ok
  unfold load
  constructor
  · intro h
    obtain ⟨v, hv, h⟩ := bind_eq_ok.mp h
    obtain ⟨trees, htrees, hv⟩ := (hfold _ _ _).mp hv
    obtain ⟨bs, u, hbs, hu, rfl⟩ := foldlM_addBundle.mp h
    refine ⟨trees, bs, u, htrees, hbs, ?_, ?_⟩
    · rw [assemble, List.foldlM_append, hv]
      exact hu
    · rw [bundles_of_foldlM_apply hv, List.nil_append]
  · rintro ⟨trees, bs, u, htrees, hbs, hu, rfl⟩
    rw [assemble, List.foldlM_append] at hu
    obtain ⟨v, hv, hu⟩ := bind_eq_ok.mp hu
    refine bind_eq_ok.mpr ⟨v, (hfold _ _ _).mpr ⟨trees, htrees, hv⟩,
      foldlM_addBundle.mpr ⟨bs, u, hbs, hu, ?_⟩⟩
    rw [bundles_of_foldlM_apply hv, List.nil_append]

/-! ### Well-formed additions -/

theorem readDocument_wellFormed {p : Path} {format : DataFormat} {text : String} {v : Value}
    (h : readDocument p format text = .ok v) : v.WellFormed := by
  unfold readDocument at h
  split at h
  · split at h
    · next hv =>
      cases h
      exact Value.ofText_wellFormed hv
    · cases h
  · split at h
    · next hv =>
      cases h
      exact Yaml.dataOfText_wellFormed hv
    · cases h

theorem treeAddition_wellFormed {root : Path} {f : Path × ByteArray} {l : List Addition}
    (h : treeAddition root f = .ok l) : ∀ a ∈ l, a.WellFormed := by
  unfold treeAddition at h
  split at h
  · cases h
    simp
  · obtain ⟨source, -, h⟩ := bind_eq_ok.mp h
    obtain ⟨_, -, h⟩ := bind_eq_ok.mp h
    cases h
    simp [Addition.WellFormed]
  · obtain ⟨text, -, h⟩ := bind_eq_ok.mp h
    obtain ⟨doc, hdoc, h⟩ := bind_eq_ok.mp h
    cases h
    simpa [Addition.WellFormed] using readDocument_wellFormed hdoc

theorem bundleAddition_wellFormed {m : BundleManifest} {dir : Path} {f : Path × ByteArray}
    {l : List Addition} (h : bundleAddition m dir f = .ok l) : ∀ a ∈ l, a.WellFormed := by
  unfold bundleAddition at h
  split at h
  · cases h
    simp
  · obtain ⟨source, -, h⟩ := bind_eq_ok.mp h
    obtain ⟨parsed, -, h⟩ := bind_eq_ok.mp h
    simp only [throw_eq_error, error_bind] at h
    split at h
    · cases h
    · cases h
      simp [Addition.WellFormed]
  · obtain ⟨text, -, h⟩ := bind_eq_ok.mp h
    obtain ⟨doc, hdoc, h⟩ := bind_eq_ok.mp h
    obtain ⟨_, -, h⟩ := bind_eq_ok.mp h
    cases h
    simpa [Addition.WellFormed] using readDocument_wellFormed hdoc

theorem openingAddition_wellFormed {read : Path × ByteArray → Except Failure (List Addition)}
    (hread : ∀ f l, read f = .ok l → ∀ a ∈ l, a.WellFormed) (o : Path × Opening)
    (l : List Addition) (h : openingAddition read o = .ok l) : ∀ a ∈ l, a.WellFormed := by
  obtain ⟨p, o⟩ := o
  cases o with
  | file content => exact hread _ _ h
  | directory =>
    obtain ⟨_, -, h⟩ := bind_eq_ok.mp h
    cases h
    exact List.forall_mem_nil _

/-- What holds of all results of steps on a list holds of each. -/
theorem flatten_wellFormed {α : Type} {f : α → Except Failure (List Addition)} {l : List α}
    {r : List (List Addition)} (hf : ∀ x ys, f x = .ok ys → ∀ a ∈ ys, a.WellFormed)
    (h : l.mapM f = .ok r) : ∀ a ∈ r.flatten, a.WellFormed := by
  intro a ha
  obtain ⟨ys, hys, ha⟩ := List.mem_flatten.mp ha
  obtain ⟨x, -, hx⟩ := exists_of_mem_mapM h hys
  exact hf x ys hx a ha

theorem treeAdditions_wellFormed {t : FileTree} {excluded : EntryFilter} {root : Path}
    {l : List Addition} (h : treeAdditions t excluded root = .ok l) : ∀ a ∈ l, a.WellFormed := by
  unfold treeAdditions at h
  obtain ⟨openings, -, h⟩ := bind_eq_ok.mp h
  obtain ⟨r, hr, h⟩ := bind_eq_ok.mp h
  cases h
  exact flatten_wellFormed (openingAddition_wellFormed fun _ _ => treeAddition_wellFormed) hr

theorem bundleAdditions_wellFormed {t : FileTree} {dir : Path} {b : BundleManifest × List Addition}
    (h : bundleAdditions t dir = .ok b) : ∀ a ∈ b.2, a.WellFormed := by
  unfold bundleAdditions at h
  obtain ⟨m, -, h⟩ := bind_eq_ok.mp h
  obtain ⟨openings, -, h⟩ := bind_eq_ok.mp h
  obtain ⟨r, hr, h⟩ := bind_eq_ok.mp h
  cases h
  exact flatten_wellFormed (openingAddition_wellFormed fun _ _ => bundleAddition_wellFormed) hr

/-! ### Any order -/

theorem load_additions_wellFormed {t : FileTree} {data bundles : List Path}
    {excluded : EntryFilter} {trees : List (List Addition)}
    {bs : List (BundleManifest × List Addition)}
    (htrees : data.mapM (treeAdditions t excluded) = .ok trees)
    (hbs : bundles.mapM (bundleAdditions t) = .ok bs) :
    ∀ a ∈ trees.flatten ++ (bs.map Prod.snd).flatten, a.WellFormed := by
  intro a ha
  rcases List.mem_append.mp ha with ha | ha
  · exact flatten_wellFormed (fun _ _ => treeAdditions_wellFormed) htrees a ha
  · obtain ⟨l, hl, ha⟩ := List.mem_flatten.mp ha
    obtain ⟨b, hb, rfl⟩ := List.mem_map.mp hl
    obtain ⟨dir, -, hdir⟩ := exists_of_mem_mapM hbs hb
    exact bundleAdditions_wellFormed hdir a ha

/-- Every set that is loaded is well-formed. -/
theorem load_wellFormed {t : FileTree} {data bundles : List Path} {excluded : EntryFilter}
    {s : SourceSet} (h : load t data bundles excluded = .ok s) : s.WellFormed := by
  obtain ⟨trees, bs, u, htrees, hbs, hu, rfl⟩ := load_eq_ok.mp h
  have hwu := foldlM_apply_wellFormed SourceSet.wellFormed_empty
    (load_additions_wellFormed htrees hbs) hu
  exact ⟨hwu.modules, hwu.data⟩

/-- A load succeeds in any order of its trees and of its bundles, with the same modules and data. -/
theorem load_perm {t : FileTree} {data data' bundles bundles' : List Path}
    {excluded : EntryFilter} {s : SourceSet} (hdata : data.Perm data')
    (hbundles : bundles.Perm bundles') (h : load t data bundles excluded = .ok s) :
    ∃ s', load t data' bundles' excluded = .ok s' ∧ s'.modules = s.modules ∧ s'.data = s.data ∧
      s'.bundles.Perm s.bundles := by
  obtain ⟨trees, bs, u, htrees, hbs, hu, rfl⟩ := load_eq_ok.mp h
  obtain ⟨trees', htrees', hperm⟩ := mapM_perm hdata htrees
  obtain ⟨bs', hbs', hperm'⟩ := mapM_perm hbundles hbs
  have hall : (trees.flatten ++ (bs.map Prod.snd).flatten).Perm
      (trees'.flatten ++ (bs'.map Prod.snd).flatten) :=
    hperm.flatten.append (hperm'.map Prod.snd).flatten
  have hu' := (assemble_perm hall (load_additions_wellFormed htrees hbs)).mp hu
  exact ⟨{ u with bundles := bs'.map Prod.fst },
    load_eq_ok.mpr ⟨trees', bs', u, htrees', hbs', hu', rfl⟩, rfl, rfl,
    (hperm'.map Prod.fst).symm⟩

/-- The compiler sees only modules and data. -/
theorem compileSources_congr {s s' : SourceSet} (hm : s.modules = s'.modules)
    (hd : s.data = s'.data) (query : String) : compileSources query s = compileSources query s' := by
  simp only [compileSources, Artifact.encode, Artifact.contentOf, hm, hd]

/-- The order of additions does not matter: in two orders of the same modules and documents all
additions succeed or some addition fails in both, the sets are the same, and so is every answer of
the compiler. In two orders of the same trees and bundles a load succeeds or fails in both, with
the same modules and data, hence the same answers of the compiler, and the same manifests up to
their order. -/
theorem order_irrelevant {l l' : List Addition} (hl : l.Perm l') (hw : ∀ a ∈ l, a.WellFormed)
    {data data' bundles bundles' : List Path} (hdata : data.Perm data')
    (hbundles : bundles.Perm bundles') (t : FileTree) (excluded : EntryFilter) :
    ((∃ s, assemble l = .ok s) ↔ ∃ s', assemble l' = .ok s') ∧
    (∀ s s', assemble l = .ok s → assemble l' = .ok s' →
      s.modules = s'.modules ∧ s.data = s'.data ∧
        ∀ query, compileSources query s = compileSources query s') ∧
    ((∃ s, load t data bundles excluded = .ok s) ↔
      ∃ s', load t data' bundles' excluded = .ok s') ∧
    ∀ s s', load t data bundles excluded = .ok s → load t data' bundles' excluded = .ok s' →
      s.modules = s'.modules ∧ s.data = s'.data ∧ s.bundles.Perm s'.bundles ∧
        ∀ query, compileSources query s = compileSources query s' := by
  have hsame (s : SourceSet) : assemble l = .ok s ↔ assemble l' = .ok s := assemble_perm hl hw
  refine ⟨exists_congr hsame, ?_, ⟨?_, ?_⟩, ?_⟩
  · intro s s' hs hs'
    obtain rfl : s = s' := Except.ok.inj (((hsame s).mp hs).symm.trans hs')
    exact ⟨rfl, rfl, fun _ => rfl⟩
  · rintro ⟨s, hs⟩
    obtain ⟨s', hs', -⟩ := load_perm hdata hbundles hs
    exact ⟨s', hs'⟩
  · rintro ⟨s', hs'⟩
    obtain ⟨s, hs, -⟩ := load_perm hdata.symm hbundles.symm hs'
    exact ⟨s, hs⟩
  · intro s s' hs hs'
    obtain ⟨u, hu, hm, hd, hb⟩ := load_perm hdata hbundles hs
    obtain rfl : u = s' := Except.ok.inj (hu.symm.trans hs')
    exact ⟨hm.symm, hd.symm, hb.symm, compileSources_congr hm.symm hd.symm⟩

theorem order_irrelevant_nested :
    ∃ s, assemble [.document [] (.object [("x", .object [("j", .bool true)])]) ⟨"b"⟩,
        .module "m.rego" "package m", .document ["x"] (.object [("k", .null)]) ⟨"a"⟩] = .ok s ∧
      s.data = [("x", .object [("j", .bool true), ("k", .null)])] := by
  have hl : [Addition.document ["x"] (.object [("k", .null)]) ⟨"a"⟩, .module "m.rego" "package m",
      .document [] (.object [("x", .object [("j", .bool true)])]) ⟨"b"⟩].Perm
      [.document [] (.object [("x", .object [("j", .bool true)])]) ⟨"b"⟩,
        .module "m.rego" "package m", .document ["x"] (.object [("k", .null)]) ⟨"a"⟩] :=
    (List.reverse_perm _).symm
  have hsorted {k : String} {v : Value} : Dictionary.Sorted [(k, v)] := List.pairwise_singleton ..
  obtain ⟨⟨hsome, -⟩, hsame, -⟩ := order_irrelevant hl (by simp [Addition.WellFormed, hsorted])
    (.swap ⟨"d"⟩ ⟨"e"⟩ []) (.refl [⟨"f"⟩]) {} EntryFilter.none
  have hfirst : assemble [.document ["x"] (.object [("k", .null)]) ⟨"a"⟩,
      .module "m.rego" "package m",
      .document [] (.object [("x", .object [("j", .bool true)])]) ⟨"b"⟩]
      = .ok ⟨[("m.rego", "package m")], [("x", .object [("j", .bool true), ("k", .null)])], []⟩ :=
    rfl
  obtain ⟨s, hs⟩ := hsome ⟨_, hfirst⟩
  exact ⟨s, hs, (hsame _ s hfirst hs).2.1.symm⟩

end PolicyPack
