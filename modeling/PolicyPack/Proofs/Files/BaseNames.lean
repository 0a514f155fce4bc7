import Mathlib.Data.List.Induction
import PolicyPack.Ignore
import PolicyPack.Proofs.Files.Names

/-!
# Base names

A filter looks at the base name of a path. That is its last part, but for slashes and single points
after it, wherever the path begins. The paths without a base name are those of nothing but slashes
and points, and those that end in a step up, and such a path is never left out.
-/

namespace PolicyPack.Path

/-- A run of slashes, some of which have a point after them. -/
inductive IsTrailing : List Char → Prop
  | nil : IsTrailing []
  | slash {s : List Char} (h : IsTrailing s) : IsTrailing ('/' :: s)
  | point {s : List Char} (h : IsTrailing s) : IsTrailing ('/' :: '.' :: s)

/-- A path of slashes and points, or one that ends in a step up, but for slashes and points after
it. -/
inductive IsNameless : Path → Prop
  | alone {first s : String} (hfirst : first ∈ ["", ".", ".."]) (hs : IsTrailing s.toList) :
    IsNameless ⟨first ++ s⟩
  | up {d s : String} (hs : IsTrailing s.toList) : IsNameless ⟨d ++ "/" ++ ".." ++ s⟩

/-! ### What trails -/

theorem IsTrailing.append {s s' : List Char} (h : IsTrailing s) (h' : IsTrailing s') :
    IsTrailing (s ++ s') := by
  induction h with
  | nil => exact h'
  | slash _ ih => exact .slash ih
  | point _ ih => exact .point ih

/-- What trails adds parts that are no components. -/
theorem IsTrailing.exists_parts {s : List Char} (h : IsTrailing s) :
    ∃ blanks, blanks.filterMap componentOfPart? = [] ∧ ∀ a, split (a ++ s) = split a ++ blanks := by
  induction h with
  | nil => exact ⟨[], rfl, fun a => by simp⟩
  | @slash s _ ih =>
    obtain ⟨blanks, hblanks, hsplit⟩ := ih
    have hs : split s = [] :: blanks := hsplit []
    refine ⟨[] :: blanks, hblanks, fun a => ?_⟩
    rw [split_append_slash, hs]
  | @point s _ ih =>
    obtain ⟨blanks, hblanks, hsplit⟩ := ih
    have hs : split ('.' :: s) = ['.'] :: blanks := hsplit ['.']
    refine ⟨['.'] :: blanks, hblanks, fun a => ?_⟩
    rw [split_append_slash, hs]

/-- What trails does not change the base name. -/
theorem fileName?_append (text : String) {s : String} (hs : IsTrailing s.toList) :
    fileName? ⟨text ++ s⟩ = fileName? ⟨text⟩ := by
  obtain ⟨blanks, hblanks, hsplit⟩ := hs.exists_parts
  obtain ⟨first, parts, hfirst⟩ := exists_split text.toList
  rw [fileName?, fileName?, components, components, String.toList_append, hsplit, hfirst]
  have hmore : (parts ++ blanks).filterMap componentOfPart? = parts.filterMap componentOfPart? := by
    rw [List.filterMap_append, hblanks, List.append_nil]
  cases first with
  | nil =>
    cases parts with
    | nil =>
      -- the blank part at the beginning is the root if anything follows it
      cases blanks with
      | nil => rfl
      | cons blank blanks => simp [componentsOfParts, hblanks]
    | cons part parts =>
      simp only [List.cons_append, componentsOfParts] at hmore ⊢
      rw [hmore]
      rfl
  | cons c first =>
    simp only [List.cons_append, componentsOfParts]
    rw [hmore]

/-! ### The last part -/

theorem components_last (d part : String) (hpart : '/' ∉ part.toList) :
    ∃ init, components ⟨d ++ "/" ++ part⟩ = init ++ (componentOfPart? part.toList).toList := by
  obtain ⟨first, parts, hd⟩ := exists_split d.toList
  have htext : (d ++ "/" ++ part).toList = d.toList ++ '/' :: part.toList := by simp
  refine ⟨componentsOfParts (split d.toList ++ [[]]), ?_⟩
  rw [components, htext, split_append_slash, split_of_not_mem hpart,
    componentsOfParts_append (by simp [hd]) (by simp)]
  cases hc : componentOfPart? part.toList <;> simp [hc]

variable {name : String}

theorem fileName?_of_name (h : IsName name) : fileName? ⟨name⟩ = some name := by
  rw [fileName?, components_of_name h]
  rfl

theorem fileName?_last (h : IsName name) (d : String) :
    fileName? ⟨d ++ "/" ++ name⟩ = some name := by
  obtain ⟨init, hinit⟩ := components_last d name h.no_slash
  rw [fileName?, hinit, h.componentOfPart?_eq, Option.toList_some, List.getLast?_concat]

theorem IsNameless.fileName?_eq {p : Path} (h : p.IsNameless) : p.fileName? = none := by
  cases h with
  | @alone first s hfirst hs =>
    rw [fileName?_append first hs]
    simp only [List.mem_cons, List.not_mem_nil, or_false] at hfirst
    rcases hfirst with rfl | rfl | rfl <;> decide
  | @up d s hs =>
    have hup : componentOfPart? "..".toList = some .up := by decide
    obtain ⟨init, hinit⟩ := components_last d ".." (by decide)
    rw [fileName?_append _ hs, fileName?, hinit, hup, Option.toList_some, List.getLast?_concat]

/-! ### Paths without a base name -/

theorem eq_append_of_split {l first : List Char} {parts : List (List Char)}
    (h : split l = first :: parts) : l = first ++ parts.flatMap fun part => '/' :: part := by
  induction l generalizing first parts with
  | nil =>
    cases h
    rfl
  | cons c l ih =>
    obtain ⟨p, ps, hl⟩ := exists_split l
    by_cases hc : c = '/'
    · subst hc
      rw [split_slash, hl] at h
      cases h
      rw [List.nil_append, List.flatMap_cons, List.cons_append, ← ih hl]
    · rw [split_cons hc hl] at h
      cases h
      rw [List.cons_append, ← ih hl]

/-- From the end of a list of parts, those that are no components trail. -/
theorem exists_trailing (parts : List (List Char)) : ∃ front blanks, parts = front ++ blanks ∧
    IsTrailing (blanks.flatMap fun part => '/' :: part) ∧
      ∀ part, front.getLast? = some part → componentOfPart? part ≠ none := by
  induction parts using List.reverseRecOn with
  | nil => exact ⟨[], [], rfl, .nil, nofun⟩
  | append_singleton parts part ih =>
    cases hpart : componentOfPart? part with
    | some c =>
      refine ⟨parts ++ [part], [], by simp, .nil, fun last hlast => ?_⟩
      rw [List.getLast?_concat] at hlast
      cases hlast
      simp [hpart]
    | none =>
      obtain ⟨front, blanks, rfl, hblanks, hfront⟩ := ih
      refine ⟨front, blanks ++ [part], by simp, ?_, hfront⟩
      rw [List.flatMap_append, List.flatMap_singleton]
      refine hblanks.append ?_
      unfold componentOfPart? at hpart
      split at hpart
      · next hblank =>
        rcases hblank with rfl | rfl
        · exact .slash .nil
        · exact .point .nil
      · split at hpart <;> cases hpart

theorem isName_of_part {part : List Char} (hslash : '/' ∉ part)
    (h : String.ofList part ∉ ["", ".", ".."]) : IsName (String.ofList part) := by
  simp only [List.mem_cons, List.not_mem_nil, or_false, not_or] at h
  exact ⟨h.1, h.2.1, h.2.2, by simpa using hslash⟩

/-- Every path without a base name is of slashes and points or ends in a step up. -/
theorem fileName?_eq_none {p : Path} : p.fileName? = none ↔ p.IsNameless := by
  refine ⟨fun h => ?_, IsNameless.fileName?_eq⟩
  obtain ⟨text⟩ := p
  obtain ⟨first, parts, hsplit⟩ := exists_split text.toList
  have hslash : ∀ part ∈ first :: parts, '/' ∉ part := fun part hpart =>
    no_slash_of_mem_split (hsplit ▸ hpart)
  obtain ⟨front, blanks, rfl, hblanks, hfront⟩ := exists_trailing parts
  obtain ⟨s, hs⟩ : ∃ s : String, s.toList = blanks.flatMap fun part => '/' :: part :=
    ⟨_, String.toList_ofList⟩
  have htext := eq_append_of_split hsplit
  rw [List.flatMap_append, ← hs, ← List.append_assoc] at htext
  rw [← hs] at hblanks
  rcases List.eq_nil_or_concat front with rfl | ⟨init, part, rfl⟩
  · -- all parts but the first trail
    obtain rfl : text = String.ofList first ++ s := String.toList_inj.mp (by simpa using htext)
    refine .alone ?_ hblanks
    by_contra hfirst
    have hname := isName_of_part (hslash first (by simp)) hfirst
    rw [fileName?_append _ hblanks, fileName?_of_name hname] at h
    cases h
  · rw [List.concat_eq_append] at htext hfront hslash
    have hpart := hfront part List.getLast?_concat
    obtain ⟨d, hd⟩ : ∃ d : String, d.toList = first ++ init.flatMap fun part => '/' :: part :=
      ⟨_, String.toList_ofList⟩
    obtain rfl : text = d ++ "/" ++ String.ofList part ++ s :=
      String.toList_inj.mp (by simpa [hd] using htext)
    by_cases hlast : String.ofList part ∈ ["", ".", ".."]
    · -- a part that is a component and no name is a step up
      simp only [List.mem_cons, List.not_mem_nil, or_false] at hlast
      rcases hlast with hempty | hhere | hup
      · obtain rfl : part = [] := String.ofList_injective hempty
        exact absurd rfl hpart
      · obtain rfl : part = ['.'] := String.ofList_injective hhere
        exact absurd rfl hpart
      · rw [hup]
        exact .up hblanks
    · have hname := isName_of_part (hslash part (by simp)) hlast
      rw [fileName?_append _ hblanks, fileName?_last hname] at h
      cases h

end PolicyPack.Path

namespace PolicyPack

open PolicyPack.Path

/-! ### Filters -/

theorem IgnoreSet.filter_of_fileName? (ignore : IgnoreSet) {p : Path} {name : String}
    (h : p.fileName? = some name) (isDirectory : Bool) (depth : Nat) :
    ignore.filter p isDirectory depth = ignore.matchesName name := by
  rw [filter, excludes, h]
  rfl

/-- A filter leaves out a path below any directory exactly if one of its patterns matches the name
at the end of the path, and so judges the path as it judges that name alone, whether it is a
directory or not and at every depth. It never leaves out a path without a base name: one that is
nothing but slashes and points, or ends in a step up. -/
theorem IgnoreSet.filter_sees_base_name (ignore : IgnoreSet) :
    (∀ d name s : String, IsName name → IsTrailing s.toList →
      ∀ isDirectory isDirectory' depth depth',
        ignore.filter ⟨d ++ "/" ++ name ++ s⟩ isDirectory depth
            = ignore.filter ⟨name⟩ isDirectory' depth' ∧
          ignore.filter ⟨name⟩ isDirectory' depth' = ignore.matchesName name) ∧
    ∀ p : Path, (p.fileName? = none ↔ p.IsNameless) ∧
      (p.IsNameless → ∀ isDirectory depth, ignore.filter p isDirectory depth = false) := by
  constructor
  · intro d name s hname hs isDirectory isDirectory' depth depth'
    have hlong := (fileName?_append _ hs).trans (fileName?_last hname d)
    have hshort := fileName?_of_name hname
    rw [ignore.filter_of_fileName? hlong, ignore.filter_of_fileName? hshort]
    exact ⟨rfl, rfl⟩
  · intro p
    refine ⟨fileName?_eq_none, fun hp isDirectory depth => ?_⟩
    rw [filter, excludes, hp.fileName?_eq]
    rfl

/-- A set whose one pattern begins with any characters. -/
def testsSet : IgnoreSet where
  entries := [("*t", ⟨"*t", [.run, .literal 't']⟩)]

theorem filter_sees_base_name_trailing :
    testsSet.filter ⟨"/a/../b" ++ "/" ++ "test" ++ "//./"⟩ true 3 = true ∧
      testsSet.filter ⟨"test" ++ "/" ++ ".." ++ "/."⟩ true 0 = false := by
  have hname : IsName "test" := by decide
  have hmatch : testsSet.matchesName "test" = true := by decide +kernel
  obtain ⟨hnamed, hnameless⟩ := testsSet.filter_sees_base_name
  obtain ⟨hlong, hshort⟩ := hnamed "/a/../b" "test" "//./" hname (.slash (.point (.slash .nil)))
    true true 3 0
  have hup : IsNameless ⟨"test" ++ "/" ++ ".." ++ "/."⟩ := .up (.point .nil)
  exact ⟨hlong.trans (hshort.trans hmatch), (hnameless _).2 hup true 0⟩

end PolicyPack
