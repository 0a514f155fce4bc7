import PolicyPack.Proofs.Sources.Inventory
import Mathlib.Data.List.Flatten

/-!
# Leaving more out

A filter that leaves out more meets fewer files, so a load with it adds some of what a load with the
other one adds, in the same order. What can be added together can be added without some of it, and
then shows nothing that was not there before.
-/

namespace PolicyPack

open Json

/-! ### Walks -/

/-- A filter leaves out at least what another one does. -/
def EntryFilter.Within (f g : EntryFilter) : Prop :=
  ∀ p isDirectory depth, f p isDirectory depth = true → g p isDirectory depth = true

section Walk

variable {f g : EntryFilter} (h : f.Within g)

include h

theorem sublist_unless (p : Path) (isDirectory : Bool) (depth : Nat) {l l' : List WalkEntry}
    (hl : l'.Sublist l) :
    (if g p isDirectory depth then [] else l').Sublist
      (if f p isDirectory depth then [] else l) := by
  cases hg : g p isDirectory depth with
  | true => exact List.nil_sublist _
  | false =>
    have hf : f p isDirectory depth = false := by
      refine Bool.eq_false_iff.mpr fun hf => ?_
      rw [h p isDirectory depth hf] at hg
      cases hg
    rw [hf]
    exact hl

omit h in
theorem walkEntries_sublist {entries : List (String × Node)}
    (hentries : ∀ e ∈ entries, ∀ depth p,
      (e.2.walk g depth p).Sublist (e.2.walk f depth p)) (depth : Nat) (path : Path) :
    (walkEntries g depth path entries).Sublist (walkEntries f depth path entries) := by
  induction entries with
  | nil => exact .refl _
  | cons e entries ih =>
    have hfirst := hentries e (List.mem_cons_self ..) depth (path.child e.1)
    have hrest := ih fun e he => hentries e (List.mem_cons_of_mem _ he)
    exact hfirst.append hrest

theorem Node.walk_sublist (n : Node) (depth : Nat) (path : Path) :
    (n.walk g depth path).Sublist (n.walk f depth path) := by
  induction n generalizing depth path with
  | file content => exact sublist_unless h path false depth (.refl _)
  | link target => exact sublist_unless h path false depth (.refl _)
  | directory entries ih =>
    have hbelow := walkEntries_sublist ih (depth + 1) path
    exact sublist_unless h path true depth (hbelow.cons_cons _)

theorem FileTree.walk_sublist {t : FileTree} {root : Path} {l : List WalkEntry}
    (hl : t.walk f root = .ok l) : ∃ l', t.walk g root = .ok l' ∧ l'.Sublist l := by
  unfold FileTree.walk at hl ⊢
  obtain ⟨n, hn, hl⟩ := bind_eq_ok.mp hl
  rw [hn, ok_bind]
  cases n with
  | file content =>
    cases hl
    exact ⟨_, rfl, Node.walk_sublist h _ 0 root⟩
  | directory entries =>
    cases hl
    exact ⟨_, rfl, Node.walk_sublist h _ 0 root⟩
  | link target =>
    obtain ⟨m, hm, hl⟩ := bind_eq_ok.mp hl
    have hown := sublist_unless h root false 0 (.refl [⟨root, .link target⟩])
    simp only [hm, ok_bind]
    cases m with
    | directory entries =>
      cases hl
      have hbelow := walkEntries_sublist
        (fun (e : String × Node) (_ : e ∈ entries) => Node.walk_sublist h e.2) 1 root
      exact ⟨_, rfl, hown.append (hbelow.cons_cons _)⟩
    | file | link =>
      cases hl
      exact ⟨_, rfl, hown⟩

theorem openingsAt_sublist {t : FileTree} {root : Path} {l : List (Path × Opening)}
    (hl : openingsAt t f root = .ok l) : ∃ l', openingsAt t g root = .ok l' ∧ l'.Sublist l := by
  unfold openingsAt at hl ⊢
  cases hwalk : t.walk f root with
  | error e =>
    rw [hwalk] at hl
    cases hl
  | ok entries =>
    rw [hwalk] at hl
    cases hl
    obtain ⟨entries', hentries', hsub⟩ := FileTree.walk_sublist h hwalk
    rw [hentries']
    exact ⟨_, rfl, hsub.filterMap _⟩

theorem treeAdditions_sublist {t : FileTree} {root : Path} {l : List Addition}
    (hl : treeAdditions t f root = .ok l) :
    ∃ l', treeAdditions t g root = .ok l' ∧ l'.Sublist l := by
  unfold treeAdditions at hl ⊢
  obtain ⟨openings, hopenings, hl⟩ := bind_eq_ok.mp hl
  obtain ⟨r, hr, hl⟩ := bind_eq_ok.mp hl
  cases hl
  obtain ⟨openings', hopenings', hsub⟩ := openingsAt_sublist h hopenings
  obtain ⟨r', hr', hsub'⟩ := mapM_sublist hsub hr
  exact ⟨r'.flatten, by rw [hopenings', ok_bind, hr']; rfl, hsub'.flatten⟩

end Walk

/-! ### Sets -/

/-- What can be assembled can be assembled without some of it. -/
theorem assemble_sublist {l l' : List Addition} {s : SourceSet} (h : l'.Sublist l)
    (hl : ∀ a ∈ l, a.WellFormed) (hs : assemble l = .ok s) : ∃ s', assemble l' = .ok s' := by
  obtain ⟨others, hperm⟩ := h.exists_perm_append
  have hall := (assemble_perm hperm hl).mp hs
  rw [assemble, List.foldlM_append] at hall
  obtain ⟨s', hs', -⟩ := bind_eq_ok.mp hall
  exact ⟨s', hs'⟩

/-- A set shows some of what another one shows: some of its modules, and along every key path what
is seen of its data, or nothing. -/
structure SourceSet.Within (s s' : SourceSet) : Prop where
  modules : ∀ key source, (key, source) ∈ s.modules → (key, source) ∈ s'.modules
  data : ∀ p f, (Value.object s.data).face? p = some f → (Value.object s'.data).face? p = some f

theorem within_of_sublist {l l' : List Addition} {s s' : SourceSet} (h : l'.Sublist l)
    (hl : ∀ a ∈ l, a.WellFormed) (hs : assemble l = .ok s) (hs' : assemble l' = .ok s') :
    s'.Within s := by
  constructor
  · intro key source hmem
    exact (mem_modules_iff hs).mpr (h.subset ((mem_modules_iff hs').mp hmem))
  · intro p f hface
    have hl' : ∀ a ∈ l', a.WellFormed := fun a ha => hl a (h.subset ha)
    refine (foldlM_apply_face? hl hs p f).mpr ?_
    exact ((foldlM_apply_face? hl' hs' p f).mp hface).imp_right
      fun ⟨a, ha, hshown⟩ => ⟨a, h.subset ha, hshown⟩

/-- A load with a filter that leaves out more succeeds where the other one does, with some of its
modules and data and with the same manifests. -/
theorem load_within {t : FileTree} {data bundles : List Path} {f g : EntryFilter} {s : SourceSet}
    (hfg : f.Within g) (h : load t data bundles f = .ok s) :
    ∃ s', load t data bundles g = .ok s' ∧ s'.Within s ∧ s'.bundles = s.bundles := by
  obtain ⟨trees, bs, u, htrees, hbs, hu, rfl⟩ := load_eq_ok.mp h
  obtain ⟨trees', htrees', hsub⟩ :=
    mapM_flatten_sublist (fun _ _ => treeAdditions_sublist hfg) htrees
  have hall : (trees'.flatten ++ (bs.map Prod.snd).flatten).Sublist
      (trees.flatten ++ (bs.map Prod.snd).flatten) := hsub.append_right _
  have hw := load_additions_wellFormed htrees hbs
  obtain ⟨u', hu'⟩ := assemble_sublist hall hw hu
  have hwithin := within_of_sublist hall hw hu hu'
  exact ⟨_, load_eq_ok.mpr ⟨trees', bs, u', htrees', hbs, hu', rfl⟩,
    ⟨hwithin.modules, hwithin.data⟩, rfl⟩

/-! ### Patterns -/

theorem IgnoreSet.ofTexts_eq_ok {texts : List String} {s : IgnoreSet}
    (h : IgnoreSet.ofTexts texts = .ok s) : texts.mapM readPattern = .ok s.entries := by
  unfold ofTexts at h
  obtain ⟨entries, hentries, h⟩ := bind_eq_ok.mp h
  split at h
  · cases h
  · cases h
    exact hentries

/-- More patterns leave out more. -/
theorem IgnoreSet.filter_within {ps qs : List String} {few many : IgnoreSet}
    (hfew : IgnoreSet.ofTexts ps = .ok few) (hmany : IgnoreSet.ofTexts (ps ++ qs) = .ok many) :
    few.filter.Within many.filter := by
  have hentries := ofTexts_eq_ok hmany
  rw [List.mapM_append, ofTexts_eq_ok hfew, ok_bind] at hentries
  obtain ⟨more, -, hentries⟩ := bind_eq_ok.mp hentries
  have hname (name : String) (hname : few.matchesName name = true) :
      many.matchesName name = true := by
    rw [matchesName, ← Except.ok.inj hentries, List.any_append, ← matchesName, hname, Bool.true_or]
  intro p isDirectory depth hexcluded
  unfold filter excludes at hexcluded ⊢
  cases hfile : p.fileName? with
  | none =>
    rw [hfile] at hexcluded
    cases hexcluded
  | some name =>
    rw [hfile] at hexcluded
    exact hname name hexcluded

/-- Where a load succeeds, it succeeds with more patterns: every module is one of before with the
same text, every key path of the data that holds a value held it before, or an object if it is an
object, and the manifests are the same. -/
theorem load_of_more_patterns {t : FileTree} {data bundles : List Path} {ps qs : List String}
    {few many : IgnoreSet} {s : SourceSet} (hfew : IgnoreSet.ofTexts ps = .ok few)
    (hmany : IgnoreSet.ofTexts (ps ++ qs) = .ok many)
    (h : load t data bundles few.filter = .ok s) :
    ∃ s', load t data bundles many.filter = .ok s' ∧
      (∀ key source, (key, source) ∈ s'.modules → (key, source) ∈ s.modules) ∧
      (∀ p v, (Value.object s'.data).at? p = some v →
        ∃ w, (Value.object s.data).at? p = some w ∧
          (w = v ∨ ∃ es es', v = .object es ∧ w = .object es')) ∧
      s'.bundles = s.bundles := by
  obtain ⟨s', hs', hwithin, hbundles⟩ := load_within (IgnoreSet.filter_within hfew hmany) h
  refine ⟨s', hs', hwithin.modules, ?_, hbundles⟩
  intro p v hv
  have hface := hwithin.data p v.face (by rw [Value.face?, hv]; rfl)
  obtain ⟨w, hw, hwv⟩ := Option.map_eq_some_iff.mp hface
  refine ⟨w, hw, ?_⟩
  cases v with
  | object es =>
    obtain ⟨es', rfl⟩ := Value.face_eq_object.mp hwv
    exact .inr ⟨es, es', rfl, rfl⟩
  | _ => exact .inl (Value.eq_of_face_eq_leaf hwv)

theorem load_of_more_patterns_smallTree :
    ∃ many s', IgnoreSet.ofTexts ["x.json"] = .ok many ∧
      load smallTree [⟨"b/x.json"⟩] [⟨"b"⟩] many.filter = .ok s' ∧
      (∀ key source, (key, source) ∈ s'.modules → (key, source) ∈ [("m.rego", "package a")]) ∧
      s'.bundles = [{}] := by
  have hread : (IgnoreSet.ofTexts ["x.json"]).toOption.isSome = true := by decide +kernel
  obtain ⟨many, hmany⟩ := exists_ok_of_isSome hread
  have hfew : IgnoreSet.ofTexts [] = .ok IgnoreSet.empty := rfl
  have hmany' : IgnoreSet.ofTexts ([] ++ ["x.json"]) = .ok many := hmany
  obtain ⟨s', hs', hmodules, -, hbundles⟩ := load_of_more_patterns hfew hmany' load_smallTree
  exact ⟨many, s', hmany, hs', hmodules, hbundles⟩

end PolicyPack
