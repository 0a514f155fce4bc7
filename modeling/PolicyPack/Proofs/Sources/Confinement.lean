import PolicyPack.Proofs.Files.Follow
import PolicyPack.Proofs.Sources.LoadOrder
import PolicyPack.Proofs.Sources.Roots
import PolicyPack.Proofs.Text.Utf8

/-!
# Bundles and their roots

A bundle that loads stays under its roots: every tip of its data and every package of its modules is
covered by a root, segment by segment. There are two ways out. An empty document puts an empty
object at the keys of its directory, which nobody looks at; and a key or a part of a package name
that contains a slash is taken for several segments.
-/

namespace PolicyPack

open Json

variable {m : BundleManifest} {roots : List String} {dir : Path}

/-! ### Packages -/

/-- The name under which a module is read is only kept for diagnostics. -/
theorem parseModule_rename (a b text : String) :
    Policy.parseModule b text
      = (Policy.parseModule a text).map fun parsed => { parsed with source := b } := by
  unfold Policy.parseModule
  cases Policy.tokens text with
  | error cause => rfl
  | ok ts =>
    simp only [ok_bind, StateT.run_bind]
    cases (Policy.Parse.acceptKeyword "package").run { rest := ts } with
    | error cause => rfl
    | ok found =>
      obtain ⟨found, c⟩ := found
      cases found with
      | false => rfl
      | true =>
        simp only [ok_bind, if_true, StateT.run_bind]
        cases (Policy.parsePath (Policy.parseFuel ts)).run c with
        | error cause => rfl
        | ok package =>
          simp only [ok_bind]
          cases (Policy.parseImports (Policy.parseFuel ts) []).run package.2 with
          | error cause => rfl
          | ok imports =>
            simp only [ok_bind]
            cases (Policy.parseRules (Policy.parseFuel ts)).run imports.2 <;> rfl

theorem readModule_eq_ok {p : Path} {source : String} {parsed : Policy.Module} :
    readModule p source = .ok parsed ↔ Policy.parseModule p.text source = .ok parsed := by
  unfold readModule
  cases Policy.parseModule p.text source <;> simp

/-! ### The places of a document -/

/-- The names of directories are not empty. -/
theorem ne_of_mem_directoryKeys {root p : Path} {k : String} (h : k ∈ directoryKeys root p) :
    k ≠ "" := by
  rw [directoryKeys_text] at h
  obtain ⟨c, hc, rfl⟩ := List.mem_map.mp h
  have hmem := (List.dropLast_sublist _).subset hc
  unfold Path.componentsBelow? at hmem
  refine Path.text_ne_of_mem_components (p := p) ?_
  simp only at hmem
  split at hmem
  · exact List.mem_of_mem_drop hmem
  · exact hmem

theorem checkPlaces_eq_ok {keys : List String} {doc : Value} {origin : Path} :
    checkPlaces m keys doc origin = .ok () ↔ ∀ place ∈ documentPlaces keys doc, m.owns place := by
  unfold checkPlaces
  cases h : (documentPlaces keys doc).find? fun place => !m.owns place with
  | none => simpa using h
  | some place =>
    have hplace : m.owns place = false := by simpa using List.find?_some h
    have hmem := List.mem_of_find?_eq_some h
    refine ⟨nofun, fun hall => ?_⟩
    rw [hall place hmem] at hplace
    cases hplace

/-- The places of an object under the names of directories are those of its keys. -/
theorem documentPlaces_object {keys : List String} (hk : ∀ k ∈ keys, k ≠ "")
    (entries : List (String × Value)) :
    documentPlaces keys (.object entries)
      = entries.map fun e => "/".intercalate (keys ++ [e.1]) := by
  refine List.map_congr_left fun e _ => ?_
  cases keys with
  | nil => simp
  | cons k keys =>
    have hbase : ("/".intercalate (k :: keys)).isEmpty = false := by
      have hk := hk k (by simp)
      cases keys with
      | nil => simpa using hk
      | cons l keys => simp [String.intercalate_cons_cons]
    rw [hbase, String.intercalate_append_of_ne_nil (by simp) (by simp), String.intercalate_singleton]
    simp

/-- The tips of a document in its place are covered, but for a document that is empty. -/
theorem covers_of_checkPlaces (hroots : m.roots = some roots) {keys : List String}
    (hk : ∀ k ∈ keys, k ≠ "") {doc v : Value} {origin : Path}
    (h : checkPlaces m keys doc origin = .ok ()) {q : List String} (hq : doc.at? q = some v)
    (hv : v.IsTip) :
    Covered roots (keySegments (keys ++ q)) ∨ q = [] ∧ doc = .object [] := by
  rw [checkPlaces_eq_ok] at h
  cases q with
  | nil =>
    rw [Value.at?_nil] at hq
    cases hq
    cases doc with
    | object entries => exact .inr ⟨rfl, congrArg Value.object hv⟩
    | _ =>
      rw [List.append_nil]
      exact .inl ((m.owns_iff hroots keys).mp (h _ (List.mem_singleton.mpr rfl)))
  | cons k q =>
    cases doc with
    | object entries =>
      rw [Value.at?_object_cons] at hq
      obtain ⟨x, hx, -⟩ := Option.bind_eq_some_iff.mp hq
      have hplace : "/".intercalate (keys ++ [k]) ∈ documentPlaces keys (.object entries) := by
        rw [documentPlaces_object hk]
        exact List.mem_map_of_mem (Dictionary.mem_of_find? hx)
      have hcovered := (m.owns_iff hroots _).mp (h _ hplace)
      rw [List.append_cons, keySegments_append]
      exact .inl (hcovered.append _)
    | _ => cases hq

/-! ### What the files of a bundle add -/

theorem bundleAddition_module {f : Path × ByteArray} {l : List Addition}
    (h : bundleAddition m dir f = .ok l) {key source : String} (ha : .module key source ∈ l) :
    ∃ parsed, Policy.parseModule f.1.text source = .ok parsed ∧
      m.ownsPackage parsed.packageName = true := by
  unfold bundleAddition at h
  split at h
  · cases h
    cases ha
  · obtain ⟨text, -, h⟩ := bind_eq_ok.mp h
    obtain ⟨parsed, hparsed, h⟩ := bind_eq_ok.mp h
    simp only [throw_eq_error, error_bind] at h
    split at h
    · cases h
    · next howns =>
      cases h
      cases List.mem_singleton.mp ha
      exact ⟨parsed, readModule_eq_ok.mp hparsed, by simpa using howns⟩
  · obtain ⟨text, -, h⟩ := bind_eq_ok.mp h
    obtain ⟨doc, -, h⟩ := bind_eq_ok.mp h
    obtain ⟨_, -, h⟩ := bind_eq_ok.mp h
    cases h
    cases List.mem_singleton.mp ha

theorem bundleAddition_document {f : Path × ByteArray} {l : List Addition}
    (h : bundleAddition m dir f = .ok l) {keys : List String} {doc : Value} {origin : Path}
    (ha : .document keys doc origin ∈ l) :
    keys = directoryKeys dir f.1 ∧ checkPlaces m keys doc f.1 = .ok () ∧
      ∃ format text, f.1.fileName?.bind FileKind.ofBundleName? = some (.data format) ∧
        sourceText f.1 f.2 = .ok text ∧ readDocument f.1 format text = .ok doc := by
  unfold bundleAddition at h
  split at h
  · cases h
    cases ha
  · obtain ⟨text, -, h⟩ := bind_eq_ok.mp h
    obtain ⟨parsed, -, h⟩ := bind_eq_ok.mp h
    simp only [throw_eq_error, error_bind] at h
    split at h
    · cases h
    · cases h
      cases List.mem_singleton.mp ha
  · next format hformat =>
    obtain ⟨text, htext, h⟩ := bind_eq_ok.mp h
    obtain ⟨doc', hdoc, h⟩ := bind_eq_ok.mp h
    obtain ⟨_, hcheck, h⟩ := bind_eq_ok.mp h
    cases h
    cases List.mem_singleton.mp ha
    exact ⟨rfl, hcheck, format, text, hformat, htext, hdoc⟩

/-- Only a file adds anything. -/
theorem exists_file_of_openingAddition {read : Path × ByteArray → Except Failure (List Addition)}
    {o : Path × Opening} {l : List Addition} (h : openingAddition read o = .ok l) {a : Addition}
    (ha : a ∈ l) : ∃ p content, o = (p, .file content) ∧ read (p, content) = .ok l := by
  obtain ⟨p, o⟩ := o
  cases o with
  | file content => exact ⟨p, content, rfl, h⟩
  | directory =>
    obtain ⟨_, -, h⟩ := bind_eq_ok.mp h
    cases h
    cases ha

theorem bundleAdditions_eq_ok {t : FileTree} {l : List Addition} :
    bundleAdditions t dir = .ok (m, l) ↔
      readManifest t dir = .ok m ∧ ∃ openings r, openingsAt t EntryFilter.none dir = .ok openings ∧
        openings.mapM (openingAddition (bundleAddition m dir)) = .ok r ∧ l = r.flatten := by
  unfold bundleAdditions
  constructor
  · intro h
    obtain ⟨m', hm, h⟩ := bind_eq_ok.mp h
    obtain ⟨openings, hopenings, h⟩ := bind_eq_ok.mp h
    obtain ⟨r, hr, h⟩ := bind_eq_ok.mp h
    cases h
    exact ⟨hm, openings, r, hopenings, hr, rfl⟩
  · rintro ⟨hm, openings, r, hopenings, hr, rfl⟩
    rw [hm, ok_bind, hopenings, ok_bind, hr]
    rfl

/-! ### A bundle on its own -/

/-- A bundle that is loaded on its own is the assembly of what it adds. -/
theorem load_bundle_eq_ok {t : FileTree} {excluded : EntryFilter} {s : SourceSet} :
    load t [] [dir] excluded = .ok s ↔
      ∃ m l u, bundleAdditions t dir = .ok (m, l) ∧ assemble l = .ok u ∧
        s = { u with bundles := [m] } := by
  rw [load_eq_ok]
  constructor
  · rintro ⟨trees, bs, u, htrees, hbs, hu, rfl⟩
    cases htrees
    rw [List.mapM_cons] at hbs
    obtain ⟨⟨m, l⟩, hl, hbs⟩ := bind_eq_ok.mp hbs
    cases hbs
    exact ⟨m, l, u, hl, by simpa using hu, rfl⟩
  · rintro ⟨m, l, u, hl, hu, rfl⟩
    exact ⟨[], [(m, l)], u, rfl, by rw [List.mapM_cons, hl]; rfl, by simpa using hu, rfl⟩

/-- A data file of the bundle holds an empty object, in the directory that the keys lead to. -/
def HasEmptyDocument (t : FileTree) (dir : Path) (keys : List String) : Prop :=
  ∃ openings p content format text, openingsAt t EntryFilter.none dir = .ok openings ∧
    (p, .file content) ∈ openings ∧
    p.fileName?.bind FileKind.ofBundleName? = some (.data format) ∧
    sourceText p content = .ok text ∧ readDocument p format text = .ok (.object []) ∧
    directoryKeys dir p = keys

/-- At the end of the keys the data hold a value without entries. -/
def SourceSet.HasTip (s : SourceSet) (keys : List String) : Prop :=
  keys ≠ [] ∧ ∃ v, (Value.object s.data).at? keys = some v ∧ v.IsTip

/-- A module of the set has a package name with these parts between its points. -/
def SourceSet.HasPackage (s : SourceSet) (parts : List String) : Prop :=
  ∃ key source parsed, (key, source) ∈ s.modules ∧
    Policy.parseModule key source = .ok parsed ∧ parts = parsed.packageName.splitOn "."

variable {t : FileTree} {excluded : EntryFilter} {s : SourceSet}

theorem covered_of_hasTip (hm : readManifest t dir = .ok m) (hroots : m.roots = some roots)
    (h : load t [] [dir] excluded = .ok s) {keys : List String} (htip : s.HasTip keys) :
    Covered roots (keySegments keys) ∨ HasEmptyDocument t dir keys := by
  obtain ⟨hkeys, v, hv, htip⟩ := htip
  obtain ⟨m', l, u, hl, hu, rfl⟩ := load_bundle_eq_ok.mp h
  have hw := bundleAdditions_wellFormed hl
  obtain ⟨hm', openings, r, hopenings, hr, rfl⟩ := bundleAdditions_eq_ok.mp hl
  obtain rfl := Except.ok.inj (hm.symm.trans hm')
  obtain ⟨place, doc, origin, q, ha, rfl, hq⟩ := exists_document_of_isTip hw hu hkeys hv htip
  obtain ⟨additions, hadditions, ha⟩ := List.mem_flatten.mp ha
  obtain ⟨o, ho, hread⟩ := exists_of_mem_mapM hr hadditions
  obtain ⟨p, content, rfl, hfile⟩ := exists_file_of_openingAddition hread ha
  obtain ⟨rfl, hcheck, format, text, hformat, htext, hdoc⟩ := bundleAddition_document hfile ha
  rcases covers_of_checkPlaces hroots (fun _ => ne_of_mem_directoryKeys) hcheck hq htip with
    hcovered | ⟨rfl, rfl⟩
  · exact .inl hcovered
  · rw [List.append_nil]
    exact .inr ⟨openings, p, content, format, text, hopenings, ho, hformat, htext, hdoc, rfl⟩

theorem parsed_of_mem_modules (hm : readManifest t dir = .ok m)
    (h : load t [] [dir] excluded = .ok s) {key source : String} (hmem : (key, source) ∈ s.modules) :
    ∃ parsed, Policy.parseModule key source = .ok parsed ∧
      m.ownsPackage parsed.packageName = true := by
  obtain ⟨m', l, u, hl, hu, rfl⟩ := load_bundle_eq_ok.mp h
  obtain ⟨hm', openings, r, -, hr, rfl⟩ := bundleAdditions_eq_ok.mp hl
  obtain rfl := Except.ok.inj (hm.symm.trans hm')
  obtain ⟨additions, hadditions, ha⟩ := List.mem_flatten.mp ((mem_modules_iff hu).mp hmem)
  obtain ⟨o, -, hread⟩ := exists_of_mem_mapM hr hadditions
  obtain ⟨p, content, rfl, hfile⟩ := exists_file_of_openingAddition hread ha
  obtain ⟨parsed, hparsed, howns⟩ := bundleAddition_module hfile ha
  refine ⟨{ parsed with source := key }, ?_, howns⟩
  rw [parseModule_rename p.text, hparsed, map_ok]

theorem covered_of_hasPackage (hm : readManifest t dir = .ok m) (hroots : m.roots = some roots)
    (h : load t [] [dir] excluded = .ok s) {parts : List String} (hparts : s.HasPackage parts) :
    Covered roots (keySegments parts) := by
  obtain ⟨key, source, parsed, hmem, hparsed, rfl⟩ := hparts
  obtain ⟨parsed', hparsed', howns⟩ := parsed_of_mem_modules hm h hmem
  obtain rfl := Except.ok.inj (hparsed.symm.trans hparsed')
  exact (m.owns_iff hroots _).mp howns

/-! ### A tree that is a bundle -/

theorem Node.text_file (text : String) : (Node.file text.toUTF8).text = .ok text := by
  have h : String.fromUTF8? text.toUTF8 = some text := dif_pos text.isValidUTF8
  rw [Node.text, Node.bytes, ok_bind, Text.ofUtf8, h]
  rfl

theorem sourceText_eq_ok {p : Path} {content : ByteArray} {source : String} :
    sourceText p content = .ok source ↔
      p.text.utf8ByteSize ≤ FileTree.pathLimit ∧ content = source.toUTF8 := by
  rw [← Text.ofUtf8_eq_ok, ← FileTree.checkLength_eq_ok, sourceText, Node.text, Node.bytes, ok_bind]
  cases FileTree.checkLength p with
  | error f => simp
  | ok _ => cases Text.ofUtf8 content <;> simp

theorem openingAddition_directory {read : Path × ByteArray → Except Failure (List Addition)}
    {p : Path} (hfits : p.text.utf8ByteSize ≤ FileTree.pathLimit) :
    openingAddition read (p, .directory) = .ok [] := by
  rw [openingAddition, openDirectory, FileTree.checkLength_eq_ok.mpr hfits]
  rfl

theorem openingAddition_file (read : Path × ByteArray → Except Failure (List Addition)) (p : Path)
    (content : ByteArray) : openingAddition read (p, .file content) = read (p, content) := rfl

section File

variable {p : Path} {text : String} (hfits : p.text.utf8ByteSize ≤ FileTree.pathLimit)

include hfits

theorem bundleAddition_of_policy {key : String} {parsed : Policy.Module}
    (hkind : p.fileName?.bind FileKind.ofBundleName? = some .policy)
    (hparsed : Policy.parseModule p.text text = .ok parsed)
    (howns : m.ownsPackage parsed.packageName = true) (hkey : moduleKey dir p = key) :
    bundleAddition m dir (p, text.toUTF8) = .ok [.module key text] := by
  simp only [bundleAddition, hkind, sourceText_eq_ok.mpr ⟨hfits, rfl⟩, ok_bind,
    readModule_eq_ok.mpr hparsed, howns, hkey]
  rfl

theorem bundleAddition_of_data {format : DataFormat} {doc : Value} {keys : List String}
    (hkind : p.fileName?.bind FileKind.ofBundleName? = some (.data format))
    (hdoc : readDocument p format text = .ok doc) (hkeys : directoryKeys dir p = keys)
    (hcheck : checkPlaces m keys doc p = .ok ()) :
    bundleAddition m dir (p, text.toUTF8) = .ok [.document keys doc p] := by
  simp only [bundleAddition, hkind, sourceText_eq_ok.mpr ⟨hfits, rfl⟩, ok_bind, hdoc, hkeys, hcheck]
  rfl

end File

/-- A tree with a bundle at `b`, which has a manifest and further entries. -/
def bundleTree (manifest : String) (entries : List (String × Node)) : FileTree where
  root := .directory [("b", .directory ((".manifest", .file manifest.toUTF8) :: entries))]

theorem locate_bundleTree (manifest : String) (entries : List (String × Node)) (last : Bool) :
    (bundleTree manifest entries).locate last ⟨"b"⟩
      = .ok (.directory ((".manifest", .file manifest.toUTF8) :: entries)) := by
  have hsteps : Path.steps ⟨"b"⟩ = [.into "b"] := by decide
  have hworking : Path.steps ⟨"/"⟩ = [.root, .stay, .stay] := by decide
  rw [FileTree.locate, if_neg (by decide), if_neg (by decide), if_neg (by decide),
    if_neg (by decide), hsteps, bundleTree, hworking]
  simp [FileTree.follow, Dictionary.find?]

theorem status_manifest_bundleTree (manifest : String) (entries : List (String × Node)) :
    (bundleTree manifest entries).status ⟨"b/.manifest"⟩ = .ok (.file manifest.toUTF8) := by
  have hsteps : Path.steps ⟨"b/.manifest"⟩ = [.into "b", .into ".manifest"] := by decide
  have hworking : Path.steps ⟨"/"⟩ = [.root, .stay, .stay] := by decide
  rw [FileTree.status, FileTree.locate, if_neg (by decide), if_neg (by decide),
    if_neg (by decide), if_neg (by decide), hsteps, bundleTree, hworking]
  simp [FileTree.follow, Dictionary.find?]

theorem readManifest_bundleTree {manifest : String} (hm : BundleManifest.ofText manifest = .ok m)
    (entries : List (String × Node)) :
    readManifest (bundleTree manifest entries) ⟨"b"⟩ = .ok m := by
  have hpath : Path.join ⟨"b"⟩ ⟨".manifest"⟩ = ⟨"b/.manifest"⟩ := by decide
  simp only [readManifest, FileTree.isDirectory, FileTree.hasPath, FileTree.readText, hpath,
    status_manifest_bundleTree, ok_bind, Node.text_file, hm]
  simp [FileTree.status, locate_bundleTree, Node.isDirectory]

theorem openingsAt_bundleTree (manifest : String) (entries : List (String × Node)) :
    openingsAt (bundleTree manifest entries) EntryFilter.none ⟨"b"⟩
      = .ok ((⟨"b"⟩, .directory) :: (⟨"b/.manifest"⟩, .file manifest.toUTF8) ::
          (walkEntries EntryFilter.none 1 ⟨"b"⟩ entries).filterMap WalkEntry.opening?) := by
  rw [openingsAt, FileTree.walk, FileTree.entry, locate_bundleTree]
  rfl

/-- The bundle loads when what is opened of it adds what can be assembled. -/
theorem load_bundleTree {manifest : String} {entries : List (String × Node)}
    {openings : List (Path × Opening)} {r : List (List Addition)} {u : SourceSet}
    (hm : BundleManifest.ofText manifest = .ok m)
    (hopenings : (walkEntries EntryFilter.none 1 ⟨"b"⟩ entries).filterMap WalkEntry.opening?
      = openings)
    (hr : openings.mapM (openingAddition (bundleAddition m ⟨"b"⟩)) = .ok r)
    (hu : assemble r.flatten = .ok u) (excluded : EntryFilter) :
    readManifest (bundleTree manifest entries) ⟨"b"⟩ = .ok m ∧
      load (bundleTree manifest entries) [] [⟨"b"⟩] excluded
        = .ok { u with bundles := [m] } := by
  have hmanifest := readManifest_bundleTree hm entries
  have hkind : (Path.mk "b/.manifest").fileName?.bind FileKind.ofBundleName? = none := by decide
  have hr' : ((⟨"b"⟩, .directory) :: (⟨"b/.manifest"⟩, .file manifest.toUTF8) :: openings).mapM
      (openingAddition (bundleAddition m ⟨"b"⟩)) = .ok ([] :: [] :: r) := by
    rw [List.mapM_cons, openingAddition_directory (p := ⟨"b"⟩) (by decide), List.mapM_cons,
      openingAddition_file, bundleAddition, hkind, hr]
    rfl
  refine ⟨hmanifest, load_bundle_eq_ok.mpr ⟨m, r.flatten, u, ?_, hu, rfl⟩⟩
  refine bundleAdditions_eq_ok.mpr ⟨hmanifest, _, _, ?_, hr', rfl⟩
  rw [openingsAt_bundleTree, hopenings]

/-- A bundle with one root. One of its documents is below the root. Another is empty, and a key and
a package name contain a slash. -/
def strayBundle : FileTree :=
  bundleTree "\x7b\"roots\":[\"a/b\"]\x7d"
    [("a", .directory [("b", .directory [("data.json", .file "\x7b\"y\":1\x7d".toUTF8)])]),
      ("data.json", .file "\x7b\"a/b\":1\x7d".toUTF8),
      ("m.rego", .file "package a[\"b/c\"]".toUTF8),
      ("x", .directory [("data.json", .file "\x7b\x7d".toUTF8)])]

/-- What the bundle holds. -/
def straySources : SourceSet where
  modules := [("m.rego", "package a[\"b/c\"]")]
  data := [("a", .object [("b", .object [("y", .number (.int 1))])]),
    ("a/b", .number (.int 1)), ("x", .object [])]
  bundles := [{ roots := some ["a/b"] }]

theorem splitOn_strayPackage : "a.b/c".splitOn "." = ["a", "b/c"] := by
  rw [String.splitOn, if_neg (by decide)]
  rw [String.splitOnAux, if_neg (by decide), if_neg (by decide)]
  rw [String.splitOnAux, if_neg (by decide), if_pos (by decide), if_pos (by decide)]
  iterate 3 rw [String.splitOnAux, if_neg (by decide), if_neg (by decide)]
  rw [String.splitOnAux, if_pos (by decide)]
  rfl

theorem parseModule_strayPackage (name : String) :
    ∃ parsed, Policy.parseModule name "package a[\"b/c\"]" = .ok parsed ∧
      parsed.packageName = "a.b/c" := by
  have h : (Policy.parseModule "" "package a[\"b/c\"]").toOption.map Policy.Module.packageName
      = some "a.b/c" := by decide +kernel
  rw [parseModule_rename ""]
  cases hp : Policy.parseModule "" "package a[\"b/c\"]" with
  | error cause => simp [hp, Except.toOption] at h
  | ok parsed =>
    have hname : parsed.packageName = "a.b/c" := by simpa [hp, Except.toOption] using h
    exact ⟨_, rfl, hname⟩

theorem hasPackage_straySources : straySources.HasPackage ["a", "b/c"] := by
  obtain ⟨parsed, hparsed, hname⟩ := parseModule_strayPackage "m.rego"
  refine ⟨"m.rego", _, parsed, List.mem_singleton.mpr rfl, hparsed, ?_⟩
  rw [hname, splitOn_strayPackage]

theorem load_strayBundle (excluded : EntryFilter) :
    readManifest strayBundle ⟨"b"⟩ = .ok { roots := some ["a/b"] } ∧
      load strayBundle [] [⟨"b"⟩] excluded = .ok straySources := by
  have hinside : readDocument ⟨"b/a/b/data.json"⟩ .json "\x7b\"y\":1\x7d"
      = .ok (.object [("y", .number (.int 1))]) := rfl
  have hslash : readDocument ⟨"b/data.json"⟩ .json "\x7b\"a/b\":1\x7d"
      = .ok (.object [("a/b", .number (.int 1))]) := rfl
  obtain ⟨parsed, hmodule, hname⟩ := parseModule_strayPackage "b/m.rego"
  have howns : BundleManifest.ownsPackage { roots := some ["a/b"] } parsed.packageName = true := by
    rw [hname, BundleManifest.ownsPackage, splitOn_strayPackage]
    rfl
  have hempty : readDocument ⟨"b/x/data.json"⟩ .json "\x7b\x7d" = .ok (.object []) := rfl
  have hopenings : (walkEntries EntryFilter.none 1 ⟨"b"⟩
      [("a", .directory [("b", .directory [("data.json", .file "\x7b\"y\":1\x7d".toUTF8)])]),
        ("data.json", .file "\x7b\"a/b\":1\x7d".toUTF8),
        ("m.rego", .file "package a[\"b/c\"]".toUTF8),
        ("x", .directory [("data.json", .file "\x7b\x7d".toUTF8)])]).filterMap WalkEntry.opening?
      = [(⟨"b/a"⟩, .directory), (⟨"b/a/b"⟩, .directory),
        (⟨"b/a/b/data.json"⟩, .file "\x7b\"y\":1\x7d".toUTF8),
        (⟨"b/data.json"⟩, .file "\x7b\"a/b\":1\x7d".toUTF8),
        (⟨"b/m.rego"⟩, .file "package a[\"b/c\"]".toUTF8), (⟨"b/x"⟩, .directory),
        (⟨"b/x/data.json"⟩, .file "\x7b\x7d".toUTF8)] := rfl
  have hadded : [((⟨"b/a"⟩ : Path), Opening.directory), (⟨"b/a/b"⟩, .directory),
      (⟨"b/a/b/data.json"⟩, .file "\x7b\"y\":1\x7d".toUTF8),
      (⟨"b/data.json"⟩, .file "\x7b\"a/b\":1\x7d".toUTF8),
      (⟨"b/m.rego"⟩, .file "package a[\"b/c\"]".toUTF8), (⟨"b/x"⟩, .directory),
      (⟨"b/x/data.json"⟩, .file "\x7b\x7d".toUTF8)].mapM
        (openingAddition (bundleAddition { roots := some ["a/b"] } ⟨"b"⟩))
      = .ok [[], [], [.document ["a", "b"] (.object [("y", .number (.int 1))]) ⟨"b/a/b/data.json"⟩],
        [.document [] (.object [("a/b", .number (.int 1))]) ⟨"b/data.json"⟩],
        [.module "m.rego" "package a[\"b/c\"]"], [],
        [.document ["x"] (.object []) ⟨"b/x/data.json"⟩]] := by
    rw [List.mapM_cons, openingAddition_directory (p := ⟨"b/a"⟩) (by decide),
      List.mapM_cons, openingAddition_directory (p := ⟨"b/a/b"⟩) (by decide),
      List.mapM_cons, openingAddition_file,
      bundleAddition_of_data (by decide) (by decide +kernel) hinside
        (directoryKeys_text _ _) rfl,
      List.mapM_cons, openingAddition_file,
      bundleAddition_of_data (by decide) (by decide +kernel) hslash
        (directoryKeys_text _ _) rfl,
      List.mapM_cons, openingAddition_file,
      bundleAddition_of_policy (by decide) (by decide +kernel) hmodule howns (moduleKey_text _ _),
      List.mapM_cons, openingAddition_directory (p := ⟨"b/x"⟩) (by decide),
      List.mapM_cons, openingAddition_file,
      bundleAddition_of_data (by decide) (by decide +kernel) hempty
        (directoryKeys_text _ _) rfl]
    rfl
  exact load_bundleTree rfl hopenings hadded rfl excluded

/-! ### Confinement -/

/-- A bundle that is loaded on its own is under its roots as far as the segments of keys go: every
tip of its data is covered, unless it is the place of an empty document, and so is the package of
every module. With each key taken for one segment all of them are covered if those are that stand
for an empty document or contain a slash. -/
theorem load_confined (hm : readManifest t dir = .ok m) (hroots : m.roots = some roots)
    (h : load t [] [dir] excluded = .ok s) :
    (∀ keys, s.HasTip keys → Covered roots (keySegments keys) ∨ HasEmptyDocument t dir keys) ∧
    (∀ key source, (key, source) ∈ s.modules →
      ∃ parsed, Policy.parseModule key source = .ok parsed) ∧
    (∀ parts, s.HasPackage parts → Covered roots (keySegments parts)) ∧
    ((∀ keys, s.HasTip keys ∨ s.HasPackage keys → Covered roots (keys.map String.toList)) ↔
      (∀ keys, s.HasTip keys → HasEmptyDocument t dir keys →
        Covered roots (keys.map String.toList)) ∧
      ∀ keys, s.HasTip keys ∨ s.HasPackage keys → (∃ k ∈ keys, '/' ∈ k.toList) →
        Covered roots (keys.map String.toList)) := by
  refine ⟨fun _ => covered_of_hasTip hm hroots h, ?_, fun _ => covered_of_hasPackage hm hroots h, ?_⟩
  · intro key source hmem
    obtain ⟨parsed, hparsed, -⟩ := parsed_of_mem_modules hm h hmem
    exact ⟨parsed, hparsed⟩
  constructor
  · intro hall
    exact ⟨fun keys htip _ => hall keys (.inl htip), fun keys hkeys _ => hall keys hkeys⟩
  · rintro ⟨hempty, hslash⟩ keys hkeys
    by_cases hk : ∃ k ∈ keys, '/' ∈ k.toList
    · exact hslash keys hkeys hk
    rw [← keySegments_eq_map fun k hmem hc => hk ⟨k, hmem, hc⟩]
    rcases hkeys with htip | hpackage
    · rcases covered_of_hasTip hm hroots h htip with hcovered | hdoc
      · exact hcovered
      · rw [keySegments_eq_map fun k hmem hc => hk ⟨k, hmem, hc⟩]
        exact hempty keys htip hdoc
    · exact covered_of_hasPackage hm hroots h hpackage

theorem load_confined_stray :
    Covered ["a/b"] (keySegments ["a", "b/c"]) ∧
      (Covered ["a/b"] (keySegments ["x"]) ∨ HasEmptyDocument strayBundle ⟨"b"⟩ ["x"]) := by
  obtain ⟨hm, hload⟩ := load_strayBundle EntryFilter.none
  obtain ⟨htips, -, hpackages, -⟩ := load_confined hm rfl hload
  have htip : straySources.HasTip ["x"] := ⟨by simp, .object [], rfl, rfl⟩
  exact ⟨hpackages _ hasPackage_straySources, htips _ htip⟩

/-- With each key taken for one segment, a bundle can hold data and modules that none of its roots
covers. -/
theorem load_not_confined :
    readManifest strayBundle ⟨"b"⟩ = .ok { roots := some ["a/b"] } ∧
      load strayBundle [] [⟨"b"⟩] EntryFilter.none = .ok straySources ∧
      (straySources.HasTip ["x"] ∧ ¬ Covered ["a/b"] (["x"].map String.toList)) ∧
      (straySources.HasTip ["a/b"] ∧ ¬ Covered ["a/b"] (["a/b"].map String.toList)) ∧
      straySources.HasPackage ["a", "b/c"] ∧
        ¬ Covered ["a/b"] (["a", "b/c"].map String.toList) := by
  obtain ⟨hm, hload⟩ := load_strayBundle EntryFilter.none
  exact ⟨hm, hload, ⟨⟨by simp, .object [], rfl, rfl⟩, by decide⟩,
    ⟨⟨by simp, .number (.int 1), rfl, trivial⟩, by decide⟩, hasPackage_straySources, by decide⟩

end PolicyPack
