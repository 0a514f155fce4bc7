import Mathlib.Data.List.Induction
import PolicyPack.Proofs.Outcome
import PolicyPack.Registry

/-!
# Runs of a registry

A run is a list of operations on a new registry, which may fail or succeed. Which queries it
registers is read off the operations alone: the handle of the first is one, that of the next is two,
and so on. A handle is disposed of by the first operation after its issue that asks for it. The
registry keeps exactly the queries whose handles are issued and not disposed of.

A registry counts in words, so all of this is about runs that register fewer queries than there are
words.
-/

namespace PolicyPack.Registry

/-! ### Operations -/

/-- A call on a registry. -/
inductive Operation where
  | create (query name source : String)
  | createFromArtifact (artifact : Artifact)
  | insert (query : PreparedQuery)
  | dispose (handle : Handle)
  | lookup (handle : Handle)
  | decide (handle : Handle) (input : String)
  | evaluate (handle : Handle) (input : String)
  | evaluateToText (handle : Handle) (input : String)
  | size

/-- What a call returns. -/
inductive Answer where
  | issued (handle : Except Failure Handle)
  | disposed (removed : Bool)
  | found (query : Except Failure PreparedQuery)
  | decision (value : Except Failure Bool)
  | results (entries : Except Failure (List ResultEntry))
  | text (text : Except Failure String)
  | size (count : Nat)

/-- The registry after a call, and what the call returns. -/
def step (r : Registry) : Operation → Registry × Answer
  | .create query name source =>
    ((r.create query name source).1, .issued (r.create query name source).2)
  | .createFromArtifact a => ((r.createFromArtifact a).1, .issued (r.createFromArtifact a).2)
  | .insert q => ((r.insert q).1, .issued (.ok (r.insert q).2))
  | .dispose h => ((r.dispose h).1, .disposed (r.dispose h).2)
  | .lookup h => (r, .found (r.lookup h))
  | .decide h input => (r, .decision (r.decide h input))
  | .evaluate h input => (r, .results (r.evaluate h input))
  | .evaluateToText h input => (r, .text (r.evaluateToText h input))
  | .size => (r, .size r.size)

/-- The registry after a run. -/
def after (r : Registry) (ops : List Operation) : Registry :=
  ops.foldl (fun r op => (r.step op).1) r

/-- What the calls of a run return. -/
def answers (r : Registry) : List Operation → List Answer
  | [] => []
  | op :: ops => (r.step op).2 :: answers (r.step op).1 ops

theorem after_append (r : Registry) (ops more : List Operation) :
    r.after (ops ++ more) = (r.after ops).after more := List.foldl_append

theorem after_concat (r : Registry) (ops : List Operation) (op : Operation) :
    r.after (ops ++ [op]) = ((r.after ops).step op).1 := after_append r ops [op]

theorem length_answers (r : Registry) (ops : List Operation) :
    (r.answers ops).length = ops.length := by
  induction ops generalizing r with
  | nil => rfl
  | cons op ops ih => rw [answers, List.length_cons, List.length_cons, ih]

theorem answers_concat (r : Registry) (ops : List Operation) (op : Operation) :
    r.answers (ops ++ [op]) = r.answers ops ++ [((r.after ops).step op).2] := by
  induction ops generalizing r with
  | nil => rfl
  | cons first ops ih =>
    rw [List.cons_append, answers, ih, answers, List.cons_append]
    rfl

/-! ### What a run registers -/

/-- What an operation has to register: a query or the failure to prepare it. -/
def Operation.creation? : Operation → Option (Except Failure PreparedQuery)
  | .create query name source => some (compileModule query name source)
  | .createFromArtifact a => some (prepareArtifact a)
  | .insert q => some (.ok q)
  | _ => none

/-- The query that an operation registers, if it registers one. -/
def Operation.registers? (op : Operation) : Option PreparedQuery :=
  op.creation?.bind Except.toOption

/-- The queries that a run registers, in order. -/
def registered (ops : List Operation) : List PreparedQuery := ops.filterMap Operation.registers?

/-- The query that a run registers under a handle. -/
def issued? (ops : List Operation) (h : Handle) : Option PreparedQuery :=
  match h.number with
  | 0 => none
  | n + 1 => (registered ops)[n]?

/-- The run disposes of a handle after it has issued it. -/
def Disposed (ops : List Operation) (h : Handle) : Prop :=
  ∃ before later, ops = before ++ .dispose h :: later ∧ (issued? before h).isSome

theorem registered_concat (ops : List Operation) (op : Operation) :
    registered (ops ++ [op]) = registered ops ++ op.registers?.toList := by
  rw [registered, List.filterMap_append]
  cases h : op.registers? <;> simp [h, registered]

theorem length_registered_le (ops more : List Operation) :
    (registered ops).length ≤ (registered (ops ++ more)).length := by
  rw [registered, registered, List.filterMap_append, List.length_append]
  omega

/-- A handle stands for the same query however the run goes on. -/
theorem issued?_append {ops : List Operation} {h : Handle} {q : PreparedQuery}
    (hq : issued? ops h = some q) (more : List Operation) : issued? (ops ++ more) h = some q := by
  unfold issued? at hq ⊢
  cases hn : h.number with
  | zero => simp [hn] at hq
  | succ n =>
    rw [hn] at hq
    simp only at hq ⊢
    rw [registered, List.filterMap_append]
    exact (List.getElem?_append_left (List.getElem?_eq_some_iff.mp hq).choose).trans hq

theorem issued?_concat_of_none {op : Operation} (hop : op.registers? = none)
    (ops : List Operation) (h : Handle) : issued? (ops ++ [op]) h = issued? ops h := by
  simp only [issued?, registered_concat, hop, Option.toList_none, List.append_nil]

/-- The next handle stands for the query that is registered next, and the others for what they
stood for. -/
theorem issued?_concat_of_some {op : Operation} {q : PreparedQuery} (hop : op.registers? = some q)
    (ops : List Operation) (h : Handle) :
    issued? (ops ++ [op]) h
      = if h.number = (registered ops).length + 1 then some q else issued? ops h := by
  simp only [issued?, registered_concat, hop, Option.toList_some]
  cases hn : h.number with
  | zero => simp
  | succ n =>
    simp only [Nat.add_right_cancel_iff, List.getElem?_append]
    rcases Nat.lt_trichotomy n (registered ops).length with hlt | rfl | hgt
    · rw [if_pos hlt, if_neg (by omega)]
    · simp
    · rw [if_neg (by omega), if_neg (by omega), List.getElem?_eq_none (by simp; omega),
        List.getElem?_eq_none (by omega)]

theorem issued?_eq_none {ops : List Operation} {h : Handle}
    (hh : (registered ops).length < h.number) : issued? ops h = none := by
  unfold issued?
  cases hn : h.number with
  | zero => rfl
  | succ n => exact List.getElem?_eq_none (by omega)

theorem disposed_concat {ops : List Operation} {op : Operation} {h : Handle} :
    Disposed (ops ++ [op]) h ↔ Disposed ops h ∨ op = .dispose h ∧ (issued? ops h).isSome := by
  constructor
  · rintro ⟨before, later, hsplit, hissued⟩
    rcases List.eq_nil_or_concat later with rfl | ⟨later, last, rfl⟩
    · obtain ⟨rfl, hop⟩ := List.append_inj' hsplit rfl
      exact .inr ⟨List.singleton_inj.mp hop, hissued⟩
    · rw [List.concat_eq_append, ← List.cons_append, ← List.append_assoc] at hsplit
      exact .inl ⟨before, later, (List.append_inj' hsplit rfl).1, hissued⟩
  · rintro (⟨before, later, rfl, hissued⟩ | ⟨rfl, hissued⟩)
    · exact ⟨before, later ++ [op], by simp, hissued⟩
    · exact ⟨ops, [], rfl, hissued⟩

theorem Disposed.isSome_issued? {ops : List Operation} {h : Handle} (hd : Disposed ops h) :
    (issued? ops h).isSome := by
  obtain ⟨before, later, rfl, hissued⟩ := hd
  obtain ⟨q, hq⟩ := Option.isSome_iff_exists.mp hissued
  rw [issued?_append hq]
  rfl

/-! ### What one operation does -/

/-- The handle that a call returns. -/
def Answer.handle? : Answer → Option Handle
  | .issued (.ok h) => some h
  | _ => none

/-- Whether a call returns that it has removed a query. -/
def Answer.removed : Answer → Bool
  | .disposed removed => removed
  | _ => false

/-- What is to be registered goes through one door. -/
theorem step_of_creation {op : Operation} {x : Except Failure PreparedQuery}
    (h : op.creation? = some x) (r : Registry) :
    r.step op = ((r.insertResult x).1, .issued (r.insertResult x).2) := by
  cases op with
  | create query name source =>
    cases h
    rfl
  | createFromArtifact a =>
    cases h
    rfl
  | insert q =>
    cases h
    rfl
  | _ => cases h

/-- An operation registers a query, or disposes of a handle, or leaves the registry as it is. -/
theorem step_cases (r : Registry) (op : Operation) :
    (∃ q, op.registers? = some q ∧ (∀ h, op ≠ .dispose h) ∧
      r.step op = ((r.insert q).1, .issued (.ok (r.insert q).2))) ∨
    (∃ h, op = .dispose h ∧ r.step op = ((r.dispose h).1, .disposed (r.dispose h).2)) ∨
    (op.registers? = none ∧ (∀ h, op ≠ .dispose h) ∧ (r.step op).1 = r ∧
      (r.step op).2.handle? = none ∧ (r.step op).2.removed = false) := by
  cases hc : op.creation? with
  | some x =>
    have hne : ∀ h, op ≠ .dispose h := by
      rintro h rfl
      cases hc
    rw [step_of_creation hc]
    cases x with
    | ok q => exact .inl ⟨q, by rw [Operation.registers?, hc]; rfl, hne, rfl⟩
    | error f => exact .inr (.inr ⟨by rw [Operation.registers?, hc]; rfl, hne, rfl, rfl, rfl⟩)
  | none =>
    have hnone : op.registers? = none := by rw [Operation.registers?, hc]; rfl
    cases op with
    | dispose h => exact .inr (.inl ⟨h, rfl, rfl⟩)
    | create | createFromArtifact | insert => cases hc
    | _ => exact .inr (.inr ⟨hnone, nofun, rfl, rfl, rfl⟩)

/-! ### Entries -/

theorem lookup_cons_of_ne {α : Type} {k m : Nat} (h : k ≠ m) (x : α) (l : List (Nat × α)) :
    ((m, x) :: l).lookup k = l.lookup k := by
  rw [List.lookup_cons, beq_false_of_ne h]

theorem lookup_filter_ne {α : Type} (n k : Nat) (l : List (Nat × α)) :
    (l.filter fun e => e.1 != n).lookup k = if k = n then none else l.lookup k := by
  induction l with
  | nil => simp
  | cons e l ih =>
    obtain ⟨m, x⟩ := e
    by_cases hm : m = n
    · subst hm
      by_cases hk : k = m
      · subst hk
        simpa using ih
      · simpa [lookup_cons_of_ne hk, hk] using ih
    · by_cases hk : k = m
      · subst hk
        simp [hm]
      · simpa [lookup_cons_of_ne hk, hm] using ih

theorem lookup_eq_none {α : Type} {k : Nat} {l : List (Nat × α)} :
    l.lookup k = none ↔ k ∉ l.map Prod.fst := by
  induction l with
  | nil => simp
  | cons e l ih =>
    obtain ⟨m, x⟩ := e
    by_cases hk : k = m
    · simp [hk]
    · rw [lookup_cons_of_ne hk, List.map_cons, List.mem_cons, not_or]
      exact ih.trans (and_iff_right hk).symm

/-- Where no key occurs twice, leaving a key out leaves out one entry, if it is there. -/
theorem length_filter_ne {α : Type} {l : List (Nat × α)} (h : (l.map Prod.fst).Nodup) (n : Nat) :
    (l.filter fun e => e.1 != n).length + (l.lookup n).isSome.toNat = l.length := by
  induction l with
  | nil => rfl
  | cons e l ih =>
    obtain ⟨m, x⟩ := e
    obtain ⟨hm, hl⟩ := List.nodup_cons.mp h
    have hrest := ih hl
    by_cases hmn : m = n
    · subst hmn
      rw [lookup_eq_none.mpr hm] at hrest
      simpa using hrest
    · simp only [List.filter_cons, bne_iff_ne.mpr hmn, if_true, List.length_cons,
        lookup_cons_of_ne (Ne.symm hmn)]
      omega

theorem nodup_without {r : Registry} (h : (r.entries.map Prod.fst).Nodup) (k : Handle) :
    ((r.without k).map Prod.fst).Nodup :=
  h.sublist (List.filter_sublist.map Prod.fst)

theorem lookup_eq_ok {r : Registry} {h : Handle} {q : PreparedQuery} :
    r.lookup h = .ok q ↔ r.entries.lookup h.number = some q := by
  unfold lookup
  cases r.entries.lookup h.number <;> simp

theorem lookup_eq_error {r : Registry} {h : Handle} (hn : ∀ q, r.lookup h ≠ .ok q) :
    r.lookup h = .error (.notFound h) := by
  unfold lookup at hn ⊢
  cases hl : r.entries.lookup h.number with
  | none => rfl
  | some q => exact absurd (by rw [hl]) (hn q)

/-- Disposing of a handle takes nothing from the others. -/
theorem lookup_dispose_of_ne (r : Registry) {h k : Handle} (hk : k ≠ h) :
    (r.dispose h).1.lookup k = r.lookup k := by
  have hne : k.number ≠ h.number := fun he => hk (congrArg Handle.mk he)
  simp only [lookup, dispose, without, lookup_filter_ne, if_neg hne]

/-! ### What a registry keeps of a run -/

/-- How often a run was told that it has removed a query. -/
def removals (ops : List Operation) : Nat := (answers {} ops).countP Answer.removed

/-- The registry counts what the run has registered, keeps the queries whose handles are issued and
not disposed of, and has one entry for each of them. -/
structure Tracks (ops : List Operation) (r : Registry) : Prop where
  last : r.last = (registered ops).length
  lookup : ∀ h q, r.entries.lookup h.number = some q ↔ issued? ops h = some q ∧ ¬ Disposed ops h
  nodup : (r.entries.map Prod.fst).Nodup
  size : r.entries.length + removals ops = (registered ops).length

variable {ops : List Operation} {op : Operation} {r : Registry}

theorem tracks_nil : Tracks [] {} where
  last := rfl
  lookup h q := by
    cases hn : h.number <;> simp [issued?, registered, hn]
  nodup := List.nodup_nil
  size := rfl

theorem removals_concat (ops : List Operation) (op : Operation) :
    removals (ops ++ [op]) = removals ops + (step (after {} ops) op).2.removed.toNat := by
  rw [removals, answers_concat, List.countP_append, List.countP_singleton]
  cases (step (after {} ops) op).2.removed <;> rfl

/-- A query is registered under the next handle, which no earlier one is equal to. -/
theorem Tracks.insert {q : PreparedQuery} (h : Tracks ops r) (hop : op.registers? = some q)
    (hne : ∀ k, op ≠ .dispose k) (hroom : (registered (ops ++ [op])).length < Handle.words)
    (hremovals : removals (ops ++ [op]) = removals ops) :
    (r.insert q).2 = ⟨(registered ops).length + 1⟩ ∧ Tracks (ops ++ [op]) (r.insert q).1 := by
  have hlength : (registered (ops ++ [op])).length = (registered ops).length + 1 := by
    simp [registered_concat, hop]
  have hnumber : (r.last + 1) % Handle.words = (registered ops).length + 1 := by
    rw [h.last, Nat.mod_eq_of_lt (hlength ▸ hroom)]
  -- the next number is free, since no handle with it has been issued
  have hfree : r.entries.lookup ((registered ops).length + 1) = none := by
    rw [Option.eq_none_iff_forall_ne_some]
    intro x hx
    have hissued := ((h.lookup ⟨_⟩ x).mp hx).1
    rw [issued?_eq_none (Nat.lt_succ_self _)] at hissued
    cases hissued
  have hwithout : r.without ⟨(registered ops).length + 1⟩ = r.entries := by
    refine List.filter_eq_self.mpr fun e he => ?_
    have hmem : e.1 ∈ r.entries.map Prod.fst := List.mem_map_of_mem he
    refine bne_iff_ne.mpr fun (heq : e.1 = (registered ops).length + 1) => ?_
    exact lookup_eq_none.mp hfree (heq ▸ hmem)
  refine ⟨by rw [Registry.insert, hnumber], ?_⟩
  rw [Registry.insert, hnumber, hwithout]
  refine ⟨hlength.symm, fun k x => ?_, ?_, ?_⟩
  · have hdisposed : Disposed (ops ++ [op]) k ↔ Disposed ops k := by
      simp [disposed_concat, hne]
    rw [issued?_concat_of_some hop, hdisposed]
    by_cases hk : k.number = (registered ops).length + 1
    · have hnot : ¬ Disposed ops k := by
        intro hd
        have hissued := hd.isSome_issued?
        rw [issued?_eq_none (by omega)] at hissued
        cases hissued
      simp [hk, hnot]
    · rw [lookup_cons_of_ne hk, if_neg hk]
      exact h.lookup k x
  · exact List.nodup_cons.mpr ⟨lookup_eq_none.mp hfree, h.nodup⟩
  · rw [hremovals, hlength, List.length_cons, ← h.size]
    omega

/-- Disposing of a handle removes its query if it is there, and the handle stays disposed of. -/
theorem Tracks.dispose {k : Handle} (h : Tracks ops r)
    (hremovals : removals (ops ++ [.dispose k]) = removals ops + (r.dispose k).2.toNat) :
    ((r.dispose k).2 = true ↔ (issued? ops k).isSome ∧ ¬ Disposed ops k) ∧
      Tracks (ops ++ [.dispose k]) (r.dispose k).1 := by
  have hnone : (Operation.dispose k).registers? = none := rfl
  have hremoved : (r.dispose k).2 = true ↔ (issued? ops k).isSome ∧ ¬ Disposed ops k := by
    simp only [Registry.dispose, Option.isSome_iff_exists, h.lookup]
    exact exists_and_right
  refine ⟨hremoved, ?_⟩
  refine ⟨?_, fun l x => ?_, nodup_without h.nodup k, ?_⟩
  · rw [registered_concat, hnone, Option.toList_none, List.append_nil]
    exact h.last
  · rw [issued?_concat_of_none hnone, disposed_concat]
    simp only [Registry.dispose, without, lookup_filter_ne]
    by_cases hl : l.number = k.number
    · obtain rfl : l = k := congrArg Handle.mk hl
      simp only [if_true]
      constructor
      · nofun
      · rintro ⟨hx, hnot⟩
        exact absurd (.inr ⟨trivial, by rw [hx]; rfl⟩) hnot
    · have hne : (Operation.dispose k = .dispose l) ↔ False := by
        refine iff_false_intro fun he => hl ?_
        cases he
        rfl
      simpa [hl, hne] using h.lookup l x
  · have hlength := length_filter_ne h.nodup k.number
    rw [registered_concat, hnone, Option.toList_none, List.append_nil, ← h.size, hremovals,
      ← hlength]
    simp only [Registry.dispose, without]
    omega

theorem Tracks.other (h : Tracks ops r) (hop : op.registers? = none) (hne : ∀ k, op ≠ .dispose k)
    (hremovals : removals (ops ++ [op]) = removals ops) : Tracks (ops ++ [op]) r := by
  have hregistered : registered (ops ++ [op]) = registered ops := by
    simp [registered_concat, hop]
  refine ⟨by rw [hregistered, h.last], fun k x => ?_, h.nodup,
    by rw [hregistered, hremovals, h.size]⟩
  rw [issued?_concat_of_none hop, disposed_concat, h.lookup]
  simp [hne]

/-- A step of a run keeps the registry in line with the run. -/
theorem tracks_step (h : Tracks ops (after {} ops))
    (hroom : (registered (ops ++ [op])).length < Handle.words) :
    Tracks (ops ++ [op]) (after {} (ops ++ [op])) := by
  have hremovals := removals_concat ops op
  rw [after_concat]
  rcases step_cases (after {} ops) op with ⟨q, hop, hne, hstep⟩ | ⟨k, rfl, hstep⟩ |
    ⟨hop, hne, hself, -, hkept⟩
  · rw [hstep] at hremovals ⊢
    exact (h.insert hop hne hroom hremovals).2
  · rw [hstep] at hremovals ⊢
    exact (h.dispose hremovals).2
  · rw [hkept] at hremovals
    rw [hself]
    exact h.other hop hne hremovals

/-- After every run the registry is in line with it. -/
theorem tracks_after (ops : List Operation) (hroom : (registered ops).length < Handle.words) :
    Tracks ops (after {} ops) := by
  induction ops using List.reverseRecOn with
  | nil => exact tracks_nil
  | append_singleton ops op ih =>
    have hbefore := length_registered_le ops [op]
    exact tracks_step (ih (by omega)) hroom

/-- No handle has the number zero. -/
theorem handle_ne_zero {h : Handle} (hroom : (registered (ops ++ [op])).length < Handle.words)
    (hissued : (step (after {} ops) op).2 = .issued (.ok h)) : h.number ≠ 0 := by
  have hbefore := length_registered_le ops [op]
  have htracks := tracks_after ops (by omega)
  have hremovals := removals_concat ops op
  rcases step_cases (after {} ops) op with ⟨q, hop, hne, hstep⟩ | ⟨k, -, hstep⟩ |
    ⟨-, -, -, hnone, -⟩
  · rw [hstep] at hremovals hissued
    obtain ⟨rfl⟩ : (after {} ops |>.insert q).2 = h := by
      injection hissued with hissued
      injection hissued
    rw [(htracks.insert hop hne hroom hremovals).1]
    exact Nat.succ_ne_zero _
  · rw [hstep] at hissued
    cases hissued
  · rw [hissued] at hnone
    cases hnone

end PolicyPack.Registry
