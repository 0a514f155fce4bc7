import PolicyPack.Proofs.Compile
import PolicyPack.Proofs.Evaluation.Forms
import PolicyPack.Proofs.Registry.Lifecycle

/-!
# The codes of failures

Callers tell failures apart by their codes, so each operation fails only with codes that say what
went wrong in it. An operation in several stages reports the first stage that fails: a build its
patterns before its sources before its policy, an evaluation its handle before its input before its
query.
-/

namespace PolicyPack

/-! ### Outcomes and codes -/

section Outcome

variable {α β σ : Type} {c : FailureCode} {x : Except Failure α}

/-- The outcome is a failure with the code. -/
def FailsWith (c : FailureCode) (x : Except Failure α) : Prop := ∃ f, x = .error f ∧ f.code = c

/-- If the outcome is a failure, it has the code. -/
def FailsOnlyWith (c : FailureCode) (x : Except Failure α) : Prop :=
  ∀ f, x = .error f → f.code = c

theorem failsWith_error {f : Failure} :
    FailsWith c (.error f : Except Failure α) ↔ f.code = c := by
  simp [FailsWith]

theorem not_failsWith_ok (a : α) : ¬ FailsWith c (.ok a) := by
  rintro ⟨f, h, -⟩
  cases h

theorem failsOnlyWith_ok (a : α) : FailsOnlyWith c (.ok a) := by
  intro f h
  cases h

theorem failsOnlyWith_error {f : Failure} (h : f.code = c) :
    FailsOnlyWith c (.error f : Except Failure α) := by
  intro g hg
  cases hg
  exact h

theorem FailsOnlyWith.not_failsWith {d : FailureCode} (h : FailsOnlyWith c x) (hd : c ≠ d) :
    ¬ FailsWith d x := by
  rintro ⟨f, hf, hcode⟩
  exact hd ((h f hf).symm.trans hcode)

theorem FailsOnlyWith.bind {g : α → Except Failure β} (hx : FailsOnlyWith c x)
    (hg : ∀ a, FailsOnlyWith c (g a)) : FailsOnlyWith c (x >>= g) := by
  intro f h
  rcases bind_eq_error.mp h with h | ⟨a, -, h⟩
  · exact hx f h
  · exact hg a f h

theorem FailsOnlyWith.mapM {g : α → Except Failure β} (hg : ∀ a, FailsOnlyWith c (g a))
    (l : List α) : FailsOnlyWith c (l.mapM g) := by
  intro f h
  obtain ⟨a, -, ha⟩ := exists_of_mapM_eq_error h
  exact hg a f ha

theorem FailsOnlyWith.foldlM {step : σ → α → Except Failure σ}
    (hstep : ∀ s a, FailsOnlyWith c (step s a)) (l : List α) (s : σ) :
    FailsOnlyWith c (l.foldlM step s) := by
  induction l generalizing s with
  | nil => exact failsOnlyWith_ok s
  | cons a l ih =>
    rw [List.foldlM_cons]
    exact (hstep s a).bind ih

end Outcome

/-! ### Loading -/

theorem ofTexts_code (texts : List String) : FailsOnlyWith .load (IgnoreSet.ofTexts texts) := by
  have hread : ∀ text, FailsOnlyWith .load (IgnoreSet.readPattern text) := by
    intro text
    unfold IgnoreSet.readPattern
    split
    · exact failsOnlyWith_ok _
    · exact failsOnlyWith_error rfl
  refine (FailsOnlyWith.mapM hread texts).bind fun entries => ?_
  split
  · exact failsOnlyWith_error rfl
  · exact failsOnlyWith_ok _

theorem addModule_code (s : SourceSet) (key source : String) :
    FailsOnlyWith .load (s.addModule key source) := by
  unfold SourceSet.addModule
  split
  · exact failsOnlyWith_error rfl
  · exact failsOnlyWith_ok _

theorem mergeData_code (s : SourceSet) (keys : List String) (doc : Json.Value) (origin : Path) :
    FailsOnlyWith .load (s.mergeData keys doc origin).2 := by
  unfold SourceSet.mergeData
  split
  · split
    · exact failsOnlyWith_ok _
    · exact failsOnlyWith_error rfl
  · exact failsOnlyWith_error rfl

theorem withData_code (s : SourceSet) (keys : List String) (doc : Json.Value) (origin : Path) :
    FailsOnlyWith .load (s.withData keys doc origin) := by
  have hmerge := mergeData_code s keys doc origin
  unfold SourceSet.withData
  split
  · exact failsOnlyWith_ok _
  · next f h =>
    rw [h] at hmerge
    exact failsOnlyWith_error (hmerge f rfl)

theorem sourceText_code (p : Path) (content : ByteArray) :
    FailsOnlyWith .load (sourceText p content) := by
  unfold sourceText
  split
  · exact failsOnlyWith_ok _
  · exact failsOnlyWith_error rfl

theorem readModule_code (p : Path) (source : String) :
    FailsOnlyWith .load (readModule p source) := by
  unfold readModule
  split
  · exact failsOnlyWith_ok _
  · exact failsOnlyWith_error rfl

theorem readDocument_code (p : Path) (format : DataFormat) (text : String) :
    FailsOnlyWith .load (readDocument p format text) := by
  unfold readDocument
  split
  · split
    · exact failsOnlyWith_ok _
    · exact failsOnlyWith_error rfl
  · split
    · exact failsOnlyWith_ok _
    · exact failsOnlyWith_error rfl

theorem openingsAt_code (t : FileTree) (excluded : EntryFilter) (root : Path) :
    FailsOnlyWith .load (openingsAt t excluded root) := by
  unfold openingsAt
  split
  · exact failsOnlyWith_ok _
  · exact failsOnlyWith_error rfl

theorem visit_code {takeIn : SourceSet → Path × ByteArray → Except Failure SourceSet}
    (htakeIn : ∀ s f, FailsOnlyWith .load (takeIn s f)) (s : SourceSet) (o : Path × Opening) :
    FailsOnlyWith .load (visit takeIn s o) := by
  obtain ⟨p, o⟩ := o
  cases o with
  | file content => exact htakeIn s (p, content)
  | directory =>
    have hopen : FailsOnlyWith .load (openDirectory p) := by
      unfold openDirectory
      split
      · exact failsOnlyWith_ok _
      · exact failsOnlyWith_error rfl
    exact hopen.bind fun _ => failsOnlyWith_ok s

theorem addTreeFile_code (root : Path) (s : SourceSet) (f : Path × ByteArray) :
    FailsOnlyWith .load (addTreeFile root s f) := by
  unfold addTreeFile
  split
  · exact failsOnlyWith_ok s
  · exact (sourceText_code _ _).bind fun source => (readModule_code _ _).bind fun _ =>
      addModule_code _ _ _
  · exact (sourceText_code _ _).bind fun text => (readDocument_code _ _ _).bind fun doc =>
      withData_code _ _ _ _

theorem addTree_code (t : FileTree) (excluded : EntryFilter) (s : SourceSet) (root : Path) :
    FailsOnlyWith .load (addTree t excluded s root) :=
  (openingsAt_code t excluded root).bind fun openings =>
    FailsOnlyWith.foldlM (visit_code (addTreeFile_code root)) openings s

theorem readManifest_code (t : FileTree) (dir : Path) :
    FailsOnlyWith .load (readManifest t dir) := by
  unfold readManifest
  split
  · exact failsOnlyWith_error rfl
  · dsimp only
    split
    · exact failsOnlyWith_ok _
    · split
      · exact failsOnlyWith_error rfl
      · split
        · exact failsOnlyWith_ok _
        · exact failsOnlyWith_error rfl

theorem checkPlaces_code (m : BundleManifest) (keys : List String) (doc : Json.Value)
    (origin : Path) : FailsOnlyWith .load (checkPlaces m keys doc origin) := by
  unfold checkPlaces
  split
  · exact failsOnlyWith_error rfl
  · exact failsOnlyWith_ok _

theorem addBundleFile_code (m : BundleManifest) (dir : Path) (s : SourceSet)
    (f : Path × ByteArray) : FailsOnlyWith .load (addBundleFile m dir s f) := by
  unfold addBundleFile
  split
  · exact failsOnlyWith_ok s
  · refine (sourceText_code _ _).bind fun source => (readModule_code _ _).bind fun parsed => ?_
    dsimp only
    split
    · exact failsOnlyWith_error rfl
    · exact addModule_code _ _ _
  · exact (sourceText_code _ _).bind fun text => (readDocument_code _ _ _).bind fun doc =>
      (checkPlaces_code _ _ _ _).bind fun _ => withData_code _ _ _ _

theorem addBundle_code (t : FileTree) (s : SourceSet) (dir : Path) :
    FailsOnlyWith .load (addBundle t s dir) :=
  (readManifest_code t dir).bind fun m =>
    (openingsAt_code t EntryFilter.none dir).bind fun openings =>
      (FailsOnlyWith.foldlM (visit_code (addBundleFile_code m dir)) openings s).bind
        fun _ => failsOnlyWith_ok _

theorem load_code (t : FileTree) (data bundles : List Path) (excluded : EntryFilter) :
    FailsOnlyWith .load (load t data bundles excluded) :=
  (FailsOnlyWith.foldlM (addTree_code t excluded) data {}).bind
    (FailsOnlyWith.foldlM (addBundle_code t) bundles)

/-- The modules that a load selects: in a data tree, of which a filter leaves out entries, by their
extension, and in a bundle by their name. -/
inductive SelectsModule (t : FileTree) (excluded : EntryFilter) (data bundles : List Path)
    (f : Path × ByteArray) : Prop
  | tree {root : Path} {openings : List (Path × Opening)} (hroot : root ∈ data)
      (hopenings : openingsAt t excluded root = .ok openings) (hf : (f.1, .file f.2) ∈ openings)
      (hkind : FileKind.ofExtension? f.1 = some .policy)
  | bundle {dir : Path} {openings : List (Path × Opening)} (hdir : dir ∈ bundles)
      (hopenings : openingsAt t EntryFilter.none dir = .ok openings)
      (hf : (f.1, .file f.2) ∈ openings)
      (hkind : f.1.fileName?.bind FileKind.ofBundleName? = some .policy)

/-- A module without a text, or whose text does not parse. -/
def IsUnreadable (f : Path × ByteArray) : Prop :=
  ∀ source, sourceText f.1 f.2 = .ok source →
    ∃ cause, Policy.parseModule f.1.text source = .error cause

theorem addTreeFile_fails {f : Path × ByteArray} (hkind : FileKind.ofExtension? f.1 = some .policy)
    (h : IsUnreadable f) (root : Path) (s : SourceSet) : ∃ g, addTreeFile root s f = .error g := by
  unfold addTreeFile
  simp only [hkind]
  refine bind_fails fun source hsource => ?_
  obtain ⟨cause, hcause⟩ := h source hsource
  rw [readModule, hcause]
  exact ⟨_, rfl⟩

theorem addBundleFile_fails {f : Path × ByteArray}
    (hkind : f.1.fileName?.bind FileKind.ofBundleName? = some .policy) (h : IsUnreadable f)
    (m : BundleManifest) (dir : Path) (s : SourceSet) :
    ∃ g, addBundleFile m dir s f = .error g := by
  unfold addBundleFile
  simp only [hkind]
  refine bind_fails fun source hsource => ?_
  obtain ⟨cause, hcause⟩ := h source hsource
  rw [readModule, hcause]
  exact ⟨_, rfl⟩

/-- A load fails with a selected module that cannot be read. -/
theorem load_fails {t : FileTree} {excluded : EntryFilter} {data bundles : List Path}
    {f : Path × ByteArray} (hselected : SelectsModule t excluded data bundles f)
    (hunreadable : IsUnreadable f) : ∃ g, load t data bundles excluded = .error g := by
  cases hselected with
  | @tree root openings hroot hopenings hf hkind =>
    have htree : ∀ s, ∃ g, addTree t excluded s root = .error g := by
      intro s
      rw [addTree, hopenings, ok_bind]
      exact foldlM_fails hf (addTreeFile_fails hkind hunreadable root) s
    obtain ⟨g, hg⟩ := foldlM_fails hroot htree {}
    exact ⟨g, by rw [load, hg, error_bind]⟩
  | @bundle dir openings hdir hopenings hf hkind =>
    have hbundle : ∀ s, ∃ g, addBundle t s dir = .error g := by
      intro s
      refine bind_fails fun m _ => ?_
      rw [hopenings, ok_bind]
      obtain ⟨g, hg⟩ : ∃ g, openings.foldlM (visit (addBundleFile m dir)) s = .error g :=
        foldlM_fails hf (addBundleFile_fails hkind hunreadable m dir) s
      exact ⟨g, by rw [hg, error_bind]⟩
    exact bind_fails fun s _ => foldlM_fails hdir hbundle s

/-! ### Compiling -/

theorem compileModule_code (query name source : String) :
    FailsOnlyWith .compile (compileModule query name source) := fun _ => prepare_code

theorem compileSources_code (query : String) (s : SourceSet) :
    FailsOnlyWith .compile (compileSources query s) := by
  have hprepare : FailsOnlyWith .compile (prepare query s.modules s.data) := fun _ => prepare_code
  exact hprepare.bind fun _ => failsOnlyWith_ok _

/-- An artifact of another format is refused for its version, and any other for what is in it. -/
theorem prepareArtifact_code (a : Artifact) :
    (FailsWith .version (prepareArtifact a) ↔
      ∃ c, Artifact.Content.ofBytes a.bytes = .ok c ∧ c.format ≠ 1) ∧
    ((∀ c, Artifact.Content.ofBytes a.bytes = .ok c → c.format = 1) →
      FailsOnlyWith .compile (prepareArtifact a)) := by
  cases hread : Artifact.Content.ofBytes a.bytes with
  | error f =>
    have hdecode : a.decode = .error (.compile (.artifact f)) := by rw [Artifact.decode, hread]
    rw [prepareArtifact_of_decode_error hdecode, failsWith_error]
    exact ⟨by simp [Failure.code], fun _ => failsOnlyWith_error rfl⟩
  | ok c =>
    by_cases hformat : c.format = 1
    · have hdecode : a.decode = .ok c := by rw [Artifact.decode, hread]; exact if_pos hformat
      have hprepare : FailsOnlyWith .compile (prepareArtifact a) := by
        rw [prepareArtifact_of_decode hdecode]
        exact fun _ => prepare_code
      exact ⟨iff_of_false (hprepare.not_failsWith (by decide)) (by simp [hformat]),
        fun _ => hprepare⟩
    · have hdecode : a.decode = .error (.version c.format) := by
        rw [Artifact.decode, hread]
        exact if_neg hformat
      rw [prepareArtifact_of_decode_error hdecode, failsWith_error]
      exact ⟨by simp [Failure.code, hformat], by simp [hformat]⟩

/-! ### Building -/

/-- The patterns or the load of a build fail. -/
def FailsToLoad (t : FileTree) (data bundles : List Path) (ignore : List String) : Prop :=
  (∃ f, IgnoreSet.ofTexts ignore = .error f) ∨
    ∃ filter f, IgnoreSet.ofTexts ignore = .ok filter ∧
      load t data bundles filter.filter = .error f

theorem build_code (t : FileTree) (query : String) (data bundles : List Path)
    (ignore : List String) :
    (FailsWith .load (build t query data bundles ignore) ↔ FailsToLoad t data bundles ignore) ∧
    (FailsWith .compile (build t query data bundles ignore) ↔
      ∃ filter s, IgnoreSet.ofTexts ignore = .ok filter ∧
        load t data bundles filter.filter = .ok s ∧ FailsWith .compile (compileSources query s)) ∧
    ∀ f, build t query data bundles ignore = .error f → f.code = .load ∨ f.code = .compile := by
  rw [build, FailsToLoad]
  cases hpatterns : IgnoreSet.ofTexts ignore with
  | error f =>
    have hcode := ofTexts_code ignore f hpatterns
    rw [error_bind]
    simp [failsWith_error, hcode]
  | ok filter =>
    rw [ok_bind]
    cases hload : load t data bundles filter.filter with
    | error f =>
      have hcode := load_code _ _ _ _ f hload
      rw [error_bind]
      simp [failsWith_error, hcode, hload]
    | ok s =>
      have hcompile := compileSources_code query s
      rw [ok_bind]
      refine ⟨iff_of_false (hcompile.not_failsWith (by decide)) (by simp [hload]), ?_,
        fun f hf => .inr (hcompile f hf)⟩
      simp [hload]

theorem build_of_unreadable {t : FileTree} {data bundles : List Path} {ignore : List String}
    {filter : IgnoreSet} {f : Path × ByteArray} (query : String)
    (hpatterns : IgnoreSet.ofTexts ignore = .ok filter)
    (hselected : SelectsModule t filter.filter data bundles f) (hunreadable : IsUnreadable f) :
    FailsWith .load (build t query data bundles ignore) := by
  obtain ⟨g, hg⟩ := load_fails hselected hunreadable
  exact (build_code t query data bundles ignore).1.mpr (.inr ⟨filter, g, hpatterns, hg⟩)

/-! ### Build manifests -/

theorem validate_code {m : BuildManifest} {f : Failure} (h : m.validate = .error f) :
    f.code = .config ∨ f.code = .version := by
  unfold BuildManifest.validate at h
  split at h
  · cases h
    exact .inr rfl
  repeat' split at h
  all_goals first | exact .inl (by cases h; rfl) | cases h

/-- A build from a manifest fails as the check of the manifest does, and otherwise as the build of
what it names. -/
theorem buildManifest_code (t : FileTree) (m : BuildManifest) (base : Path) :
    (FailsWith .config (buildManifest t m base) ∨ FailsWith .version (buildManifest t m base) ↔
      ∃ f, m.validate = .error f) ∧
    (∀ f, m.validate = .error f → buildManifest t m base = .error f) ∧
    (m.validate = .ok () → buildManifest t m base =
      build t m.query (m.data.map fun p => Path.from base ⟨p⟩)
        (m.bundles.map fun p => Path.from base ⟨p⟩) m.ignore) := by
  cases hvalid : m.validate with
  | error f =>
    have herror : buildManifest t m base = .error f := by rw [buildManifest, hvalid, error_bind]
    rw [herror, failsWith_error, failsWith_error]
    refine ⟨iff_of_true (validate_code hvalid) ⟨f, rfl⟩, fun g hg => ?_, nofun⟩
    rw [Except.error.inj hg]
  | ok u =>
    have hbuild : buildManifest t m base =
        build t m.query (m.data.map fun p => Path.from base ⟨p⟩)
          (m.bundles.map fun p => Path.from base ⟨p⟩) m.ignore := by
      rw [buildManifest, hvalid, ok_bind]
    have hcodes := (build_code t m.query (m.data.map fun p => Path.from base ⟨p⟩)
      (m.bundles.map fun p => Path.from base ⟨p⟩) m.ignore).2.2
    rw [hbuild]
    refine ⟨iff_of_false ?_ (by simp), nofun, fun _ => rfl⟩
    rintro (⟨f, hf, hcode⟩ | ⟨f, hf, hcode⟩)
    all_goals
      rcases hcodes f hf with h | h
      all_goals
        rw [h] at hcode
        cases hcode

theorem validate_of_ofText {text : String} {m : BuildManifest}
    (h : BuildManifest.ofText text = .ok m) : m.validate = .ok () := by
  unfold BuildManifest.ofText at h
  split at h
  · obtain ⟨u, hu, h⟩ := bind_eq_ok.mp h
    cases h
    exact hu
  · cases h

theorem validate_of_ofFile {t : FileTree} {p : Path} {m : BuildManifest}
    (h : BuildManifest.ofFile t p = .ok m) : m.validate = .ok () := by
  unfold BuildManifest.ofFile at h
  split at h
  · exact validate_of_ofText h
  · cases h

/-! ### Evaluating -/

/-- The outcome of an evaluation: the input is at fault exactly when the reader of policy values
does not read it, and otherwise the evaluation is. -/
def FailsAsEvaluation {α : Type} (input : String) (x : Except Failure α) : Prop :=
  (FailsWith .parse x ↔ ∃ f, Policy.Value.ofText input = .error f) ∧
    ∀ v, Policy.Value.ofText input = .ok v → FailsOnlyWith .evaluation x

section Evaluation

variable {α β : Type} {input : String}

theorem FailsAsEvaluation.bind {x : Except Failure α} {g : α → Except Failure β}
    (hx : FailsAsEvaluation input x) (hg : ∀ a, FailsOnlyWith .evaluation (g a)) :
    FailsAsEvaluation input (x >>= g) := by
  obtain ⟨hparse, hevaluation⟩ := hx
  cases hread : Policy.Value.ofText input with
  | error f =>
    obtain ⟨e, rfl, he⟩ := hparse.mpr ⟨f, hread⟩
    exact ⟨iff_of_true ⟨e, rfl, he⟩ ⟨f, hread⟩, fun v hv => by rw [hread] at hv; cases hv⟩
  | ok v =>
    have hboth := (hevaluation v hread).bind hg
    exact ⟨iff_of_false (hboth.not_failsWith (by decide)) (by simp [hread]), fun _ _ => hboth⟩

theorem FailsAsEvaluation.not_notFound {x : Except Failure α} (h : FailsAsEvaluation input x) :
    ¬ FailsWith .notFound x := by
  obtain ⟨hparse, hevaluation⟩ := h
  cases hread : Policy.Value.ofText input with
  | error f =>
    obtain ⟨e, rfl, he⟩ := hparse.mpr ⟨f, hread⟩
    rw [failsWith_error, he]
    decide
  | ok v => exact (hevaluation v hread).not_failsWith (by decide)

end Evaluation

namespace PreparedQuery

theorem run_code (q : PreparedQuery) (input : String) : FailsAsEvaluation input (q.run input) := by
  unfold run FailsAsEvaluation
  cases Policy.Value.ofText input with
  | error f => simp [failsWith_error, Failure.code]
  | ok v =>
    dsimp only
    split
    · next answers _ =>
      exact ⟨iff_of_false (not_failsWith_ok answers) (by simp), fun _ _ => failsOnlyWith_ok answers⟩
    · exact ⟨by simp [failsWith_error, Failure.code], fun _ _ => failsOnlyWith_error rfl⟩

theorem decide_code (q : PreparedQuery) (input : String) :
    FailsAsEvaluation input (q.decide input) :=
  (q.run_code input).bind fun _ => failsOnlyWith_ok _

theorem evaluation_code (q : PreparedQuery) (input : String) :
    FailsAsEvaluation input (q.evaluate input) :=
  (q.run_code input).bind fun _ =>
    FailsOnlyWith.mapM (fun _ _ => ofAnswer_code) _

theorem evaluateToText_code (q : PreparedQuery) (input : String) :
    FailsAsEvaluation input (q.evaluateToText input) :=
  (q.evaluation_code input).bind fun _ => failsOnlyWith_ok _

end PreparedQuery

namespace Registry

/-- An operation on the query under a handle, itself never without a query, finds none exactly when
the registry has none. -/
theorem lookup_bind_code {α : Type} (r : Registry) (h : Handle)
    {form : PreparedQuery → Except Failure α} (hform : ∀ q, ¬ FailsWith .notFound (form q)) :
    FailsWith .notFound (r.lookup h >>= form) ↔ r.entries.lookup h.number = none := by
  cases hl : r.entries.lookup h.number with
  | none =>
    have herror : r.lookup h = .error (.notFound h) := by rw [lookup, hl]
    rw [herror, error_bind, failsWith_error]
    exact iff_of_true rfl rfl
  | some q =>
    rw [lookup_eq_ok.mpr hl, ok_bind]
    exact iff_of_false (hform q) (by simp)

end Registry

/-! ### Every operation -/

/-- The codes of failures say what went wrong, for all inputs:

* patterns, additions to a source set and loads fail to load;
* compiling a module or sources fails to compile;
* an artifact is refused for its version exactly when it is read and of another format, and fails to
  compile otherwise;
* a build fails to load exactly when its patterns or its load do, which a selected module that
  cannot be read makes certain, and fails to compile only after a load that succeeds;
* a build from a manifest fails as the check of the manifest, which is the only thing that fails for
  the manifest or its version, and is otherwise the build of what the manifest names; the check of a
  manifest that was read succeeds;
* an evaluation fails for its input exactly when this is not read, and otherwise in the evaluation;
* a registry knows no query exactly when there is none under the handle, which in a run is one that
  was never issued or that was disposed of, and otherwise answers as the query. -/
theorem failure_codes_sound :
    (∀ texts, FailsOnlyWith .load (IgnoreSet.ofTexts texts)) ∧
    (∀ (s : SourceSet) key source, FailsOnlyWith .load (s.addModule key source)) ∧
    (∀ (s : SourceSet) keys doc origin, FailsOnlyWith .load (s.mergeData keys doc origin).2) ∧
    (∀ t data bundles excluded, FailsOnlyWith .load (load t data bundles excluded)) ∧
    (∀ query name source, FailsOnlyWith .compile (compileModule query name source)) ∧
    (∀ query s, FailsOnlyWith .compile (compileSources query s)) ∧
    (∀ a, (FailsWith .version (prepareArtifact a) ↔
        ∃ c, Artifact.Content.ofBytes a.bytes = .ok c ∧ c.format ≠ 1) ∧
      ((∀ c, Artifact.Content.ofBytes a.bytes = .ok c → c.format = 1) →
        FailsOnlyWith .compile (prepareArtifact a))) ∧
    (∀ t query data bundles ignore,
      (FailsWith .load (build t query data bundles ignore) ↔
        FailsToLoad t data bundles ignore) ∧
      (FailsWith .compile (build t query data bundles ignore) ↔
        ∃ filter s, IgnoreSet.ofTexts ignore = .ok filter ∧
          load t data bundles filter.filter = .ok s ∧ FailsWith .compile (compileSources query s)) ∧
      (∀ f, build t query data bundles ignore = .error f → f.code = .load ∨ f.code = .compile) ∧
      ∀ filter f, IgnoreSet.ofTexts ignore = .ok filter →
        SelectsModule t filter.filter data bundles f → IsUnreadable f →
          FailsWith .load (build t query data bundles ignore)) ∧
    (∀ t m base,
      (FailsWith .config (buildManifest t m base) ∨ FailsWith .version (buildManifest t m base) ↔
        ∃ f, m.validate = .error f) ∧
      (∀ f, m.validate = .error f → buildManifest t m base = .error f) ∧
      (m.validate = .ok () → buildManifest t m base =
        build t m.query (m.data.map fun p => Path.from base ⟨p⟩)
          (m.bundles.map fun p => Path.from base ⟨p⟩) m.ignore) ∧
      ((∃ text, BuildManifest.ofText text = .ok m) ∨
          (∃ files p, BuildManifest.ofFile files p = .ok m) →
        ¬ FailsWith .config (buildManifest t m base) ∧
          ¬ FailsWith .version (buildManifest t m base))) ∧
    (∀ (q : PreparedQuery) input, FailsAsEvaluation input (q.decide input) ∧
      FailsAsEvaluation input (q.evaluate input) ∧
      FailsAsEvaluation input (q.evaluateToText input)) ∧
    (∀ (r : Registry) h input,
      (FailsWith .notFound (r.decide h input) ↔ r.entries.lookup h.number = none) ∧
      (FailsWith .notFound (r.evaluate h input) ↔ r.entries.lookup h.number = none) ∧
      (FailsWith .notFound (r.evaluateToText h input) ↔ r.entries.lookup h.number = none) ∧
      ∀ q, r.entries.lookup h.number = some q → r.AnswersAs h q input) ∧
    ∀ ops, (Registry.registered ops).length < Handle.words → ∀ h,
      (Registry.after {} ops).entries.lookup h.number = none ↔
        Registry.issued? ops h = none ∨ Registry.Disposed ops h := by
  refine ⟨ofTexts_code, addModule_code, mergeData_code, load_code, compileModule_code,
    compileSources_code, prepareArtifact_code, fun t query data bundles ignore => ?_,
    fun t m base => ?_, fun q input => ?_, fun r h input => ?_, fun ops hroom h => ?_⟩
  · obtain ⟨hload, hcompile, hcodes⟩ := build_code t query data bundles ignore
    exact ⟨hload, hcompile, hcodes, fun _ _ hpatterns hselected hunreadable =>
      build_of_unreadable query hpatterns hselected hunreadable⟩
  · obtain ⟨hiff, herror, hok⟩ := buildManifest_code t m base
    refine ⟨hiff, herror, hok, fun hread => ?_⟩
    have hvalid : m.validate = .ok () := by
      rcases hread with ⟨text, h⟩ | ⟨files, p, h⟩
      · exact validate_of_ofText h
      · exact validate_of_ofFile h
    rw [← not_or, hiff, hvalid]
    simp
  · exact ⟨q.decide_code input, q.evaluation_code input, q.evaluateToText_code input⟩
  · exact ⟨r.lookup_bind_code h fun q => (q.decide_code input).not_notFound,
      r.lookup_bind_code h fun q => (q.evaluation_code input).not_notFound,
      r.lookup_bind_code h fun q => (q.evaluateToText_code input).not_notFound,
      fun q hq => Registry.answersAs_of_lookup (Registry.lookup_eq_ok.mpr hq) input⟩
  · exact (Registry.tracks_after ops hroom).lookup_eq_none h

end PolicyPack
