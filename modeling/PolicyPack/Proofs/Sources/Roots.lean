import PolicyPack.Proofs.Path
import PolicyPack.Sources.Load

/-!
# What the roots of a bundle own

A bundle compares the texts of paths. Seen segment by segment, a root owns a path when its segments
are the first of the path. A path that is made of keys has the segments of its keys, so a key that
contains a slash counts as several segments.
-/

namespace PolicyPack

/-! ### Segments -/

/-- The segments of a path that is made of keys: those of each key, one after the other. -/
def keySegments (keys : List String) : List (List Char) := keys.flatMap fun k => Path.split k.toList

theorem keySegments_append (p q : List String) :
    keySegments (p ++ q) = keySegments p ++ keySegments q := List.flatMap_append

/-- Keys without a slash are one segment each. -/
theorem keySegments_eq_map {keys : List String} (h : ∀ k ∈ keys, '/' ∉ k.toList) :
    keySegments keys = keys.map String.toList := by
  induction keys with
  | nil => rfl
  | cons k keys ih =>
    rw [keySegments, List.flatMap_cons, Path.split_of_not_mem (h k (by simp)), List.map_cons]
    exact congrArg (k.toList :: ·) (ih fun l hl => h l (by simp [hl]))

/-- Keys with slashes between them have the segments of the keys. -/
theorem split_intercalate {keys : List String} (h : keys ≠ []) :
    Path.split ("/".intercalate keys).toList = keySegments keys := by
  induction keys with
  | nil => exact absurd rfl h
  | cons k keys ih =>
    cases keys with
    | nil => simp [keySegments]
    | cons l keys =>
      rw [String.intercalate_cons_cons, String.toList_append, String.toList_append,
        show "/".toList = ['/'] from rfl, List.append_assoc, List.singleton_append,
        Path.split_append_slash, ih (by simp)]
      rfl

/-! ### Roots -/

open BundleManifest

theorem rootOwns_iff {root path : List Char} :
    rootOwns root path = true ↔ root = [] ∨ Path.split root <+: Path.split path := by
  rw [Path.split_prefix_iff]
  simp only [rootOwns, Bool.or_eq_true, List.isEmpty_iff, beq_iff_eq, Bool.and_eq_true,
    List.isPrefixOf_iff_prefix, or_assoc]
  refine or_congr_right (or_congr_right ⟨?_, ?_⟩)
  · rintro ⟨⟨rest, rfl⟩, hslash⟩
    rw [List.drop_left] at hslash
    obtain ⟨rest, rfl⟩ := List.head?_eq_some_iff.mp hslash
    exact ⟨rest, rfl⟩
  · rintro ⟨rest, rfl⟩
    exact ⟨List.prefix_append .., by simp⟩

/-- The root, without the slashes around it, is empty, or its segments are the first of those
given. -/
def Covers (root : String) (segments : List (List Char)) : Prop :=
  trimSlashes root.toList = [] ∨ Path.split (trimSlashes root.toList) <+: segments

theorem Covers.append {root : String} {segments : List (List Char)} (h : Covers root segments)
    (more : List (List Char)) : Covers root (segments ++ more) :=
  h.imp_right fun hp => hp.trans (List.prefix_append ..)

/-- One of the roots covers the segments. -/
def Covered (roots : List String) (segments : List (List Char)) : Prop :=
  ∃ root ∈ roots, Covers root segments

instance (root : String) (segments : List (List Char)) : Decidable (Covers root segments) :=
  inferInstanceAs (Decidable (_ ∨ _))

instance (roots : List String) (segments : List (List Char)) :
    Decidable (Covered roots segments) :=
  inferInstanceAs (Decidable (∃ root ∈ roots, Covers root segments))

theorem Covered.append {roots : List String} {segments : List (List Char)}
    (h : Covered roots segments) (more : List (List Char)) : Covered roots (segments ++ more) :=
  h.imp fun _ hroot => hroot.imp_right fun hcovers => hcovers.append more

/-- Where there are no keys, only an empty root owns what stands there. -/
theorem BundleManifest.owns_empty {m : BundleManifest} {roots : List String}
    (hroots : m.roots = some roots) : m.owns "" = true ↔ Covered roots [] := by
  rw [owns, hroots, List.any_eq_true]
  refine exists_congr fun root => and_congr_right fun _ => ?_
  have hempty : Path.split (trimSlashes root.toList) ≠ [] := by
    obtain ⟨p, ps, h⟩ := Path.exists_split (trimSlashes root.toList)
    simp [h]
  rw [rootOwns_iff, Covers, List.prefix_nil, or_iff_left hempty, or_iff_left_of_imp]
  intro h
  simpa [Path.split_prefix_iff] using h

/-- A bundle with roots owns keys exactly when one of the roots covers their segments. -/
theorem BundleManifest.owns_iff {m : BundleManifest} {roots : List String}
    (hroots : m.roots = some roots) (keys : List String) :
    m.owns ("/".intercalate keys) = true ↔ Covered roots (keySegments keys) := by
  cases keys with
  | nil => exact owns_empty hroots
  | cons k keys =>
    rw [owns, hroots, List.any_eq_true]
    simp only [rootOwns_iff, split_intercalate (List.cons_ne_nil k keys), Covered, Covers]

/-! ### Slashes around a root -/

/-- What is left of a root without the slashes around it. -/
structure IsTrimmed (root core : List Char) : Prop where
  slashes : ∃ before after, root = List.replicate before '/' ++ core ++ List.replicate after '/'
  head? : core.head? ≠ some '/'
  getLast? : core.getLast? ≠ some '/'

theorem dropWhile_slashes (k : Nat) {l : List Char} (h : l.head? ≠ some '/') :
    (List.replicate k '/' ++ l).dropWhile (· == '/') = l := by
  rw [List.dropWhile_append_of_pos (by simp +contextual)]
  cases l with
  | nil => rfl
  | cons c l => exact List.dropWhile_cons_of_neg (by simpa using h)

theorem exists_slashes_dropWhile (l : List Char) : ∃ k,
    l = List.replicate k '/' ++ l.dropWhile (· == '/') ∧
      (l.dropWhile (· == '/')).head? ≠ some '/' := by
  induction l with
  | nil => exact ⟨0, rfl, by simp⟩
  | cons c l ih =>
    by_cases hc : c = '/'
    · subst hc
      obtain ⟨k, hl, hhead⟩ := ih
      exact ⟨k + 1, congrArg ('/' :: ·) hl, hhead⟩
    · rw [List.dropWhile_cons_of_neg (by simpa using hc)]
      exact ⟨0, rfl, by simpa using hc⟩

theorem isTrimmed_trimSlashes (root : List Char) : IsTrimmed root (trimSlashes root) := by
  obtain ⟨before, hroot, hhead⟩ := exists_slashes_dropWhile root
  obtain ⟨after, hrest, hlast⟩ := exists_slashes_dropWhile (root.dropWhile (· == '/')).reverse
  have hcore : root.dropWhile (· == '/') = trimSlashes root ++ List.replicate after '/' := by
    simpa [trimSlashes] using congrArg List.reverse hrest
  refine ⟨⟨before, after, ?_⟩, ?_, ?_⟩
  · rw [List.append_assoc, ← hcore]
    exact hroot
  · -- the core begins as what follows the slashes before it
    rw [hcore, List.head?_append] at hhead
    intro hslash
    rw [hslash] at hhead
    exact hhead rfl
  · simpa [trimSlashes] using hlast

theorem IsTrimmed.eq_trimSlashes {root core : List Char} (h : IsTrimmed root core) :
    core = trimSlashes root := by
  obtain ⟨⟨before, after, rfl⟩, hhead, hlast⟩ := h
  cases core with
  | nil => simp [trimSlashes]
  | cons c core =>
    have hbefore : (c :: core ++ List.replicate after '/').head? ≠ some '/' := hhead
    have hafter : (c :: core).reverse.head? ≠ some '/' := by rwa [List.head?_reverse]
    rw [trimSlashes, List.append_assoc, dropWhile_slashes before hbefore, List.reverse_append,
      List.reverse_replicate, dropWhile_slashes after hafter, List.reverse_reverse]

theorem covers_iff {root : String} {segments : List (List Char)} :
    Covers root segments ↔
      ∃ core, IsTrimmed root.toList core ∧ (core = [] ∨ core.splitOn '/' <+: segments) := by
  rw [Covers, Path.split_eq_splitOn]
  constructor
  · intro h
    exact ⟨_, isTrimmed_trimSlashes _, h⟩
  · rintro ⟨core, hcore, h⟩
    rwa [hcore.eq_trimSlashes] at h

/-- A bundle owns a path if it has no list of roots, or if one of its roots, without the slashes
around it, is empty or has the first segments of the path as its segments. So it owns all that is
below what it owns. -/
theorem BundleManifest.owns_by_segments (m : BundleManifest) :
    (∀ path : String, m.owns path = true ↔ m.roots = none ∨
      ∃ roots, m.roots = some roots ∧ ∃ root ∈ roots, ∃ core, IsTrimmed root.toList core ∧
        (core = [] ∨ core.splitOn '/' <+: path.toList.splitOn '/')) ∧
    ∀ p q : String, m.owns p = true → m.owns (p ++ "/" ++ q) = true := by
  cases hroots : m.roots with
  | none =>
    have howns (path : String) : m.owns path = true := by rw [owns, hroots]
    exact ⟨fun path => iff_of_true (howns path) (.inl rfl), fun p q _ => howns _⟩
  | some roots =>
    constructor
    · intro path
      have howns := owns_iff hroots [path]
      rw [String.intercalate_singleton] at howns
      simp only [howns, Covered, covers_iff, keySegments, List.flatMap_singleton,
        Path.split_eq_splitOn]
      simp
    · intro p q hp
      have hone := owns_iff hroots [p]
      have htwo := owns_iff hroots ([p] ++ [q])
      rw [String.intercalate_singleton] at hone
      rw [keySegments_append, List.singleton_append, String.intercalate_cons_cons,
        String.intercalate_singleton] at htwo
      exact htwo.mpr ((hone.mp hp).append _)

theorem BundleManifest.owns_by_segments_doubled :
    owns { roots := some ["billing", "//a/b/"] } "a/b" = true ∧
      owns { roots := some ["billing", "//a/b/"] } ("a/b" ++ "/" ++ "/c/") = true := by
  have hp : owns { roots := some ["billing", "//a/b/"] } "a/b" = true := by decide
  exact ⟨hp, (owns_by_segments _).2 "a/b" "/c/" hp⟩

end PolicyPack
