import PolicyPack.Proofs.Files.Relative
import PolicyPack.Proofs.Sources.RootFiles

/-!
# Outcomes up to their wording

Of a failure callers rely on the code. A directory or a file that is opened under two paths comes
out alike under both as far as results and codes go, if the limit on the length of paths keeps out
both or neither: all else that differs is what messages say.
-/

namespace PolicyPack

open Json PolicyPack.Path

/-! ### Outcomes up to their wording -/

section Coded

variable {α β : Type}

/-- What callers can rely on of an outcome: the result, or the code of the failure. -/
def coded (x : Except Failure α) : Except FailureCode α := x.mapError Failure.code

@[simp] theorem coded_ok (a : α) : coded (.ok a) = .ok a := rfl

@[simp] theorem coded_error (f : Failure) : coded (.error f : Except Failure α) = .error f.code :=
  rfl

theorem coded_bind_congr {x y : Except Failure α} {f g : α → Except Failure β}
    (h : coded x = coded y) (hfg : ∀ a, coded (f a) = coded (g a)) :
    coded (x >>= f) = coded (y >>= g) := by
  cases x with
  | error e =>
    cases y with
    | error e' => exact congrArg Except.error (Except.error.inj h)
    | ok b => cases h
  | ok a =>
    cases y with
    | error e' => cases h
    | ok b =>
      cases h
      exact hfg a

theorem coded_foldlM_congr {σ : Type} {step step' : σ → α → Except Failure σ} {l : List α}
    (h : ∀ x ∈ l, ∀ s, coded (step s x) = coded (step' s x)) (s : σ) :
    coded (l.foldlM step s) = coded (l.foldlM step' s) := by
  induction l generalizing s with
  | nil => rfl
  | cons x l ih =>
    rw [List.foldlM_cons, List.foldlM_cons]
    have hrest := ih fun y hy => h y (List.mem_cons_of_mem _ hy)
    exact coded_bind_congr (h x (List.mem_cons_self ..) s) hrest

theorem coded_eq_iff {x y : Except Failure α} :
    coded x = coded y ↔ (∃ a, x = .ok a ∧ y = .ok a) ∨
      ∃ f g, x = .error f ∧ y = .error g ∧ f.code = g.code := by
  cases x <;> cases y <;> simp [eq_comm]

end Coded

/-! ### Files -/

variable {p q : Path} {content : ByteArray}

theorem checkLength_congr (h : p.FitAlike q) :
    FileTree.checkLength p = FileTree.checkLength q := by
  unfold FitAlike at h
  simp only [FileTree.checkLength, h]

theorem coded_openDirectory (h : p.FitAlike q) :
    coded (openDirectory p) = coded (openDirectory q) := by
  unfold openDirectory
  rw [checkLength_congr h]
  cases FileTree.checkLength q <;> rfl

theorem coded_sourceText (h : p.FitAlike q) (content : ByteArray) :
    coded (sourceText p content) = coded (sourceText q content) := by
  unfold sourceText
  rw [checkLength_congr h]
  cases FileTree.checkLength q >>= fun _ => (Node.file content).text <;> rfl

theorem coded_readDocument (p q : Path) (format : DataFormat) (text : String) :
    coded (readDocument p format text) = coded (readDocument q format text) := by
  unfold readDocument
  cases format with
  | json => cases Value.ofText text <;> rfl
  | yaml => cases Yaml.dataOfText text <;> rfl

/-- Of a module that has been read, only the name under which it was read differs. -/
theorem coded_readModule_bind {α : Type} (p q : Path) (source : String)
    {f g : Policy.Module → Except Failure α}
    (h : ∀ m m', m.packageName = m'.packageName → coded (f m) = coded (g m')) :
    coded (readModule p source >>= f) = coded (readModule q source >>= g) := by
  unfold readModule
  rw [parseModule_rename p.text q.text]
  cases Policy.parseModule p.text source with
  | error cause => rfl
  | ok m => exact h m _ rfl

theorem coded_withData (s : SourceSet) (keys : List String) (doc : Value) (p q : Path) :
    coded (s.withData keys doc p) = coded (s.withData keys doc q) := by
  unfold SourceSet.withData SourceSet.mergeData
  cases nestUnder keys doc with
  | object entries =>
    simp only
    cases mergeEntries s.data entries with
    | mk data conflict => cases conflict <;> rfl
  | _ => rfl

theorem coded_checkPlaces (m : BundleManifest) (keys : List String) (doc : Value) (p q : Path) :
    coded (checkPlaces m keys doc p) = coded (checkPlaces m keys doc q) := by
  unfold checkPlaces
  cases (documentPlaces keys doc).find? fun place => !m.owns place <;> rfl

/-- A visit comes out alike if a directory fits alike and a file is taken in alike. -/
theorem coded_visit {takeIn takeIn' : SourceSet → Path × ByteArray → Except Failure SourceSet}
    {o : Opening} {s : SourceSet} (hdirectory : o = .directory → p.FitAlike q)
    (hfile : ∀ content, o = .file content →
      coded (takeIn s (p, content)) = coded (takeIn' s (q, content))) :
    coded (visit takeIn s (p, o)) = coded (visit takeIn' s (q, o)) := by
  cases o with
  | directory => exact coded_bind_congr (coded_openDirectory (hdirectory rfl)) fun _ => rfl
  | file content => exact hfile content rfl

/-- A file that names lead to from one root and from another is known alike from both if it has the
same last name. -/
theorem fileKey_congr {root root' : Path} {names : List String}
    (h : lastName? root names = lastName? root' names) :
    fileKey root names = fileKey root' names := by
  cases names with
  | nil => exact congrArg (·.getD "") h
  | cons name names => rfl

section File

variable {root root' : Path} {names : List String} (hnames : ∀ name ∈ names, IsName name)
  {name : String} (hname : lastName? root names = some name)
  (hname' : lastName? root' names = some name)

include hnames hname hname'

theorem coded_addTreeFile (hfit : (FileKind.ofExtension? (root.descend names)).isSome →
      (root.descend names).FitAlike (root'.descend names)) (s : SourceSet) :
    coded (addTreeFile root s (root.descend names, content))
      = coded (addTreeFile root' s (root'.descend names, content)) := by
  have hkind := ofExtension?_eq ((fileName?_descend hnames).trans hname)
  have hkind' := ofExtension?_eq ((fileName?_descend hnames).trans hname')
  have hkey := moduleKey_eq hnames hname
  have hkey' := moduleKey_eq hnames hname'
  rw [← fileKey_congr (hname.trans hname'.symm)] at hkey'
  have hkeys := directoryKeys_descend root hnames
  have hkeys' := directoryKeys_descend root' hnames
  rw [hkind] at hfit
  unfold addTreeFile
  simp only [hkind, hkind', hkey, hkey', hkeys, hkeys']
  cases hfile : FileKind.ofExtension? ⟨name⟩ with
  | none => rfl
  | some kind =>
    have htext := coded_sourceText (hfit (by rw [hfile]; rfl)) content
    cases kind with
    | policy =>
      apply coded_bind_congr htext
      intro source
      exact coded_readModule_bind _ _ source fun _ _ _ => rfl
    | data format =>
      apply coded_bind_congr htext
      intro text
      apply coded_bind_congr (coded_readDocument ..)
      intro doc
      exact coded_withData ..

theorem coded_addBundleFile
    (hfit : ((root.descend names).fileName?.bind FileKind.ofBundleName?).isSome →
      (root.descend names).FitAlike (root'.descend names)) (m : BundleManifest) (s : SourceSet) :
    coded (addBundleFile m root s (root.descend names, content))
      = coded (addBundleFile m root' s (root'.descend names, content)) := by
  have hlast := (fileName?_descend hnames).trans hname
  have hlast' := (fileName?_descend hnames).trans hname'
  have hkey := moduleKey_eq hnames hname
  have hkey' := moduleKey_eq hnames hname'
  rw [← fileKey_congr (hname.trans hname'.symm)] at hkey'
  have hkeys := directoryKeys_descend root hnames
  have hkeys' := directoryKeys_descend root' hnames
  rw [hlast] at hfit
  unfold addBundleFile
  simp only [hlast, hlast', hkey, hkey', hkeys, hkeys']
  cases hfile : (some name).bind FileKind.ofBundleName? with
  | none => rfl
  | some kind =>
    have htext := coded_sourceText (hfit (by rw [hfile]; rfl)) content
    cases kind with
    | policy =>
      apply coded_bind_congr htext
      intro source
      apply coded_readModule_bind
      intro parsed parsed' hpackage
      rw [hpackage]
      cases m.ownsPackage parsed'.packageName <;> rfl
    | data format =>
      apply coded_bind_congr htext
      intro text
      apply coded_bind_congr (coded_readDocument ..)
      intro doc
      apply coded_bind_congr (coded_checkPlaces ..)
      intro _
      exact coded_withData ..

end File

end PolicyPack
