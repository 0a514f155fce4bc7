import PolicyPack.Proofs.Json.ReadValues
import PolicyPack.Yaml.Typed

/-!
# Documents read as well-formed data

The whole numbers that a scalar may spell fit 64 bits, and a mapping becomes a dictionary. So a
document that is read as data is read as a well-formed value.
-/

namespace PolicyPack.Yaml

open Json

/-! ### Scalars -/

namespace Scalar

/-- A whole number among the scalars fits 64 bits. -/
def InRange : Scalar → Prop
  | .integer n => (Number.int n).InRange
  | _ => True

theorem unsigned?_lt {bound n : Nat} {cs : List Char} (h : unsigned? bound cs = some n) :
    n < bound := by
  have hbelow {n? : Option Nat} (h : (n?.filter fun n => n < bound) = some n) : n < bound := by
    simpa using (Option.filter_eq_some_iff.mp h).2
  have hplain (h : (if hasLeadingZero (dropPlus cs) then none
      else (natural? 10 (dropPlus cs)).filter fun n => n < bound) = some n) : n < bound := by
    split at h
    · cases h
    · exact hbelow h
  unfold unsigned? at h
  simp only at h
  split at h
  · split at h
    · exact hbelow h
    · exact hplain h
  · exact hplain h

theorem negative?_range {bound : Nat} {cs : List Char} {n : Int} (h : negative? bound cs = some n) :
    -(bound : Int) ≤ n ∧ n ≤ 0 := by
  have hwithin {n? : Option Nat}
      (h : ((n?.filter fun n => n ≤ bound).map fun n => -(n : Int)) = some n) :
      -(bound : Int) ≤ n ∧ n ≤ 0 := by
    obtain ⟨i, hi, rfl⟩ := Option.map_eq_some_iff.mp h
    obtain ⟨m, hm, hmi⟩ := Option.bind_eq_some_iff.mp hi
    obtain rfl : (m : Int) = i := Option.some.inj hmi
    have hle : m ≤ bound := by simpa using (Option.filter_eq_some_iff.mp hm).2
    omega
  have hplain {r : List Char} (h : (if hasLeadingZero r then none
      else ((natural? 10 r).filter fun n => n ≤ bound).map fun n => -(n : Int)) = some n) :
      -(bound : Int) ≤ n ∧ n ≤ 0 := by
    split at h
    · cases h
    · exact hwithin h
  unfold negative? at h
  simp only at h
  split at h
  · split at h
    · split at h
      · exact hwithin h
      · exact hplain h
    · exact hplain h
  · cases h

theorem integer?_inRange {cs : List Char} {x : Scalar} (h : integer? cs = some x) : x.InRange := by
  unfold integer? at h
  simp only [Option.orElse_eq_orElse, Option.orElse_eq_or, Option.or_eq_some_iff] at h
  rcases h with h | ⟨-, h | ⟨-, h | ⟨-, h⟩⟩⟩
  · obtain ⟨n, hn, rfl⟩ := Option.map_eq_some_iff.mp h
    have := unsigned?_lt hn
    refine ⟨?_, ?_⟩ <;> omega
  · obtain ⟨n, hn, rfl⟩ := Option.map_eq_some_iff.mp h
    have := negative?_range hn
    refine ⟨?_, ?_⟩ <;> omega
  · obtain ⟨n, -, rfl⟩ := Option.map_eq_some_iff.mp h
    trivial
  · obtain ⟨n, -, rfl⟩ := Option.map_eq_some_iff.mp h
    trivial

theorem float?_inRange {s : String} {x : Scalar} (h : float? s = some x) : x.InRange := by
  unfold float? at h
  simp only at h
  split at h
  · cases h
  · split at h
    · cases h
      trivial
    · split at h
      · cases h
        trivial
      · split at h
        · cases h
          trivial
        · obtain ⟨y, -, rfl⟩ := Option.map_eq_some_iff.mp h
          trivial

theorem ofPlain_inRange (s : String) : (ofPlain s).InRange := by
  unfold ofPlain
  split
  · trivial
  · split
    · trivial
    · split
      · next h => exact integer?_inRange h
      · split
        · trivial
        · cases h : float? s with
          | none => trivial
          | some x => exact float?_inRange h

theorem ofText_inRange {tag : Option String} {s : String} {style : ScalarStyle} {x : Scalar}
    (h : ofText tag s style = .ok x) : x.InRange := by
  have huntagged : (if style = .plain then ofPlain s else .string s).InRange := by
    split
    · exact ofPlain_inRange s
    · trivial
  unfold ofText at h
  simp only at h
  split at h
  · cases h
    exact huntagged
  · split at h
    · split at h
      · next hx =>
        cases h
        obtain ⟨b, -, rfl⟩ := Option.map_eq_some_iff.mp hx
        trivial
      · cases h
    · split at h
      · split at h
        · next hx =>
          cases h
          exact integer?_inRange hx
        · cases h
      · split at h
        · split at h
          · next hx =>
            cases h
            exact float?_inRange hx
          · cases h
        · split at h
          · split at h
            · next hx =>
              cases h
              split at hx
              · cases hx
                trivial
              · cases hx
            · cases h
          · split at h
            · cases h
              exact huntagged
            · cases h
              trivial

theorem toData_wellFormed {x : Scalar} (hx : x.InRange) {v : Value} (h : x.toData = .ok v) :
    v.WellFormed := by
  cases x with
  | integer n =>
    cases h
    exact .number hx
  | float y =>
    cases h
    exact .number trivial
  | wideInteger n => cases h
  | null =>
    cases h
    exact .null
  | nonFinite name =>
    cases h
    exact .null
  | bool b =>
    cases h
    exact .bool b
  | string s =>
    cases h
    exact .string s

end Scalar

/-! ### Reading -/

/-- Two steps of reading succeed when each does, the second where the first has ended. -/
theorem bind_run_eq_ok {α β : Type} {x : Reading α} {f : α → Reading β}
    {named : List (Nat × Node)} {left : Nat} {r : β × Nat} :
    (x >>= f) named left = .ok r ↔ ∃ a k, x named left = .ok (a, k) ∧ f a named k = .ok r := by
  have hrun : (x >>= f) named left = x named left >>= fun p => f p.1 named p.2 := rfl
  rw [hrun, bind_eq_ok]
  exact Prod.exists

theorem lift_run_eq_ok {α : Type} {x : Except Fault α} {named : List (Nat × Node)} {left k : Nat}
    {a : α} (h : (liftM x : Reading α) named left = .ok (a, k)) : x = .ok a := by
  cases x with
  | error f => cases h
  | ok y =>
    cases h
    rfl

section Parts

variable {α : Type} {P : α → Prop} {read : List PlaceStep → Node → Reading α}
  {named : List (Nat × Node)}

theorem readItems_all (hread : ∀ place n left x k, read place n named left = .ok (x, k) → P x)
    {place : List PlaceStep} {index : Nat} {items : List Node} {left k : Nat} {xs : List α}
    (h : readItems place read index items named left = .ok (xs, k)) : ∀ x ∈ xs, P x := by
  induction items generalizing index left k xs with
  | nil =>
    cases h
    simp
  | cons n r ih =>
    rw [readItems] at h
    obtain ⟨x, i, hx, h⟩ := bind_run_eq_ok.mp h
    obtain ⟨ys, j, hys, h⟩ := bind_run_eq_ok.mp h
    cases h
    intro y hy
    rcases List.mem_cons.mp hy with rfl | hy
    · exact hread _ _ _ _ _ hx
    · exact ih hys y hy

theorem readEntries_all (hread : ∀ place n left x k, read place n named left = .ok (x, k) → P x)
    {place : List PlaceStep} {first : Bool} {entries : List (Node × Node)} {left k : Nat}
    {es : List (String × α)} (h : readEntries place read first entries named left = .ok (es, k)) :
    ∀ e ∈ es, P e.2 := by
  induction entries generalizing first left k es with
  | nil =>
    cases h
    simp
  | cons e r ih =>
    obtain ⟨key, v⟩ := e
    rw [readEntries] at h
    obtain ⟨text, i, -, h⟩ := bind_run_eq_ok.mp h
    obtain ⟨x, j, hx, h⟩ := bind_run_eq_ok.mp h
    obtain ⟨ys, m, hys, h⟩ := bind_run_eq_ok.mp h
    cases h
    intro y hy
    rcases List.mem_cons.mp hy with rfl | hy
    · exact hread _ _ _ _ _ hx
    · exact ih hys y hy

end Parts

theorem scalar_wellFormed {place : List PlaceStep} {p : Properties} {text : String}
    {style : ScalarStyle} {named : List (Nat × Node)} {left k : Nat} {v : Value}
    (h : (do
      refuseOwnTag place p.tag
      match Scalar.ofText p.tag text style with
      | .ok x => x.toData
      | .error f => throw (.shape place f) : Reading Value) named left = .ok (v, k)) :
    v.WellFormed := by
  obtain ⟨_, i, -, h⟩ := bind_run_eq_ok.mp h
  cases hs : Scalar.ofText p.tag text style with
  | ok x =>
    rw [hs] at h
    exact Scalar.toData_wellFormed (Scalar.ofText_inRange hs) (lift_run_eq_ok h)
  | error f =>
    rw [hs] at h
    cases h

/-- A value that is read as data is well-formed. -/
theorem readData_wellFormed {levels : Nat} {place : List PlaceStep} {n : Node}
    {named : List (Nat × Node)} {left k : Nat} {v : Value}
    (h : readData levels place n named left = .ok (v, k)) : v.WellFormed := by
  induction levels generalizing place n left k v with
  | zero =>
    rw [readData] at h
    obtain ⟨m, i, -, h⟩ := bind_run_eq_ok.mp h
    cases m with
    | scalar p text style => exact scalar_wellFormed h
    | sequence p items =>
      obtain ⟨_, _, -, h⟩ := bind_run_eq_ok.mp h
      cases h
    | mapping p entries =>
      obtain ⟨_, _, -, h⟩ := bind_run_eq_ok.mp h
      cases h
    | _ => cases h
  | succ levels ih =>
    have hread : ∀ place n left x k, readData levels place n named left = .ok (x, k) →
        x.WellFormed := fun _ _ _ _ _ h => ih h
    rw [readData] at h
    obtain ⟨m, i, -, h⟩ := bind_run_eq_ok.mp h
    cases m with
    | scalar p text style => exact scalar_wellFormed h
    | sequence p items =>
      obtain ⟨_, _, -, h⟩ := bind_run_eq_ok.mp h
      obtain ⟨xs, _, hxs, h⟩ := bind_run_eq_ok.mp h
      cases h
      exact .array (readItems_all hread hxs)
    | mapping p entries =>
      obtain ⟨_, _, -, h⟩ := bind_run_eq_ok.mp h
      obtain ⟨es, _, hes, h⟩ := bind_run_eq_ok.mp h
      cases h
      exact wellFormed_ofList (readEntries_all hread hes)
    | _ => cases h

theorem dataOfText_wellFormed {text : String} {v : Value} (h : dataOfText text = .ok v) :
    v.WellFormed := by
  unfold dataOfText readDocument at h
  obtain ⟨⟨x, k⟩, hx, h⟩ := bind_eq_ok.mp h
  simp only at h
  split at h
  · cases h
    exact readData_wellFormed hx
  · cases h

end PolicyPack.Yaml
