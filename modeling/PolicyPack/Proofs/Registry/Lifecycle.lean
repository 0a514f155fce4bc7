import PolicyPack.Proofs.Registry.Runs

/-!
# The life of a handle

Handles are issued in order from one, each for one query. A handle is live from its issue until it
is disposed of, which happens once at most, and while it is live everything asked of it is answered
by its query. Before and after that it is unknown.
-/

namespace PolicyPack.Registry

variable {ops : List Operation} {h : Handle}

/-! ### Handles in order -/

/-- The first handles, in the order of their issue. -/
def firstHandles (n : Nat) : List Handle := (List.range n).map fun k => ⟨k + 1⟩

theorem firstHandles_succ (n : Nat) : firstHandles (n + 1) = firstHandles n ++ [⟨n + 1⟩] := by
  rw [firstHandles, List.range_succ, List.map_append]
  rfl

theorem handles_eq (ops : List Operation) (hroom : (registered ops).length < Handle.words) :
    (answers {} ops).filterMap Answer.handle? = firstHandles (registered ops).length := by
  induction ops using List.reverseRecOn with
  | nil => rfl
  | append_singleton ops op ih =>
    have hbefore := length_registered_le ops [op]
    have htracks := tracks_after ops (by omega)
    have hremovals := removals_concat ops op
    rw [answers_concat, List.filterMap_append, ih (by omega), registered_concat]
    rcases step_cases (after {} ops) op with ⟨q, hop, hne, hstep⟩ | ⟨k, rfl, hstep⟩ |
      ⟨hop, hne, -, hnone, -⟩
    · rw [hstep] at hremovals ⊢
      have hnumber := (htracks.insert hop hne hroom hremovals).1
      rw [hop, hnumber, Option.toList_some, List.length_append, List.length_singleton,
        firstHandles_succ]
      rfl
    · have hnone : (Operation.dispose k).registers? = none := rfl
      rw [hstep, hnone, Option.toList_none, List.append_nil]
      exact List.append_nil _
    · rw [hop, Option.toList_none, List.append_nil]
      simp [hnone]

/-! ### The one removal -/

/-- Whether an operation disposes of a handle. -/
def Operation.disposes (h : Handle) : Operation → Bool
  | .dispose k => k = h
  | _ => false

/-- How often a run was told that it has removed the query under a handle. -/
def removalsOf (h : Handle) (ops : List Operation) : Nat :=
  (ops.zip (answers {} ops)).countP fun e => e.1.disposes h && e.2.removed

theorem removalsOf_concat (h : Handle) (ops : List Operation) (op : Operation) :
    removalsOf h (ops ++ [op])
      = removalsOf h ops + (op.disposes h && ((after {} ops).step op).2.removed).toNat := by
  rw [removalsOf, answers_concat, List.zip_append (length_answers {} ops).symm,
    List.countP_append, List.zip_cons_cons, List.zip_nil_right, List.countP_singleton]
  cases op.disposes h && ((after {} ops).step op).2.removed <;> rfl

/-- The query under a handle is removed once if the handle is disposed of, and else never. -/
theorem removalsOf_eq (h : Handle) (ops : List Operation)
    (hroom : (registered ops).length < Handle.words) :
    (Disposed ops h → removalsOf h ops = 1) ∧ (¬ Disposed ops h → removalsOf h ops = 0) := by
  induction ops using List.reverseRecOn with
  | nil =>
    refine ⟨?_, fun _ => rfl⟩
    rintro ⟨before, later, hsplit, -⟩
    simp at hsplit
  | append_singleton ops op ih =>
    have hbefore := length_registered_le ops [op]
    obtain ⟨hone, hzero⟩ := ih (by omega)
    rw [removalsOf_concat, disposed_concat]
    by_cases hop : op = .dispose h
    · subst hop
      have htracks := tracks_after ops (by omega)
      have hremoved := (htracks.dispose (removals_concat ops (.dispose h))).1
      have hstep : ((after {} ops).step (.dispose h)).2.removed = ((after {} ops).dispose h).2 :=
        rfl
      rw [hstep, Operation.disposes, decide_eq_true rfl, Bool.true_and]
      by_cases hd : Disposed ops h
      · have hkept : ((after {} ops).dispose h).2 = false := by
          simp [← Bool.not_eq_true, hremoved, hd]
        simp [hd, hone hd, hkept]
      · by_cases hissued : (issued? ops h).isSome
        · have htaken := hremoved.mpr ⟨hissued, hd⟩
          simp [hzero hd, htaken, hissued]
        · have hkept : ((after {} ops).dispose h).2 = false := by
            simp [← Bool.not_eq_true, hremoved, hissued]
          simp [hd, hzero hd, hkept, hissued]
    · have hother : op.disposes h = false := by
        cases op with
        | dispose k => simpa [Operation.disposes] using hop
        | _ => rfl
      simpa [hother, hop] using ⟨hone, hzero⟩

/-! ### Evaluations -/

/-- A query and a registry with a handle give the same answers to an input, in every form. -/
def AnswersAs (r : Registry) (h : Handle) (q : PreparedQuery) (input : String) : Prop :=
  r.decide h input = q.decide input ∧ r.evaluate h input = q.evaluate input ∧
    r.evaluateToText h input = q.evaluateToText input

/-- Whatever is asked of the handle, the answer is that it is unknown. -/
def Unknown (r : Registry) (h : Handle) : Prop :=
  r.lookup h = .error (.notFound h) ∧ ∀ input,
    r.decide h input = .error (.notFound h) ∧ r.evaluate h input = .error (.notFound h) ∧
      r.evaluateToText h input = .error (.notFound h)

theorem answersAs_of_lookup {r : Registry} {q : PreparedQuery} (hl : r.lookup h = .ok q)
    (input : String) : r.AnswersAs h q input := by
  simp only [AnswersAs, decide, evaluate, evaluateToText, hl, ok_bind, and_self]

theorem unknown_of_lookup {r : Registry} (hl : ∀ q, r.lookup h ≠ .ok q) : r.Unknown h := by
  have herror := lookup_eq_error hl
  refine ⟨herror, fun input => ?_⟩
  simp only [decide, evaluate, evaluateToText, herror, error_bind, and_self]

theorem Tracks.lookup_iff {r : Registry} (ht : Tracks ops r) (h : Handle) (q : PreparedQuery) :
    r.lookup h = .ok q ↔ issued? ops h = some q ∧ ¬ Disposed ops h :=
  lookup_eq_ok.trans (ht.lookup h q)

theorem Tracks.lookup_eq_none {ops : List Operation} {r : Registry} (ht : Tracks ops r)
    (h : Handle) :
    r.entries.lookup h.number = none ↔ issued? ops h = none ∨ Disposed ops h := by
  rw [Option.eq_none_iff_forall_ne_some]
  constructor
  · intro hnone
    by_cases hd : Disposed ops h
    · exact .inr hd
    · refine .inl (Option.eq_none_iff_forall_ne_some.mpr fun q hq => ?_)
      exact hnone q ((ht.lookup h q).mpr ⟨hq, hd⟩)
  · intro hgone q hq
    obtain ⟨hissued, hlive⟩ := (ht.lookup h q).mp hq
    rcases hgone with hnone | hd
    · rw [hnone] at hissued
      cases hissued
    · exact hlive hd

/-! ### Every run -/

/-- In every run that registers fewer queries than there are words:

* the handles returned are one, two, three and so on, one for each registration in order, and an
  operation that fails to prepare its query changes nothing;
* a lookup finds a query exactly when the handle is issued for it and not disposed of, and a removal
  is reported exactly then, which is once for a handle that is disposed of and never for another;
* disposing of a handle keeps what is under the others;
* the size is the number of registrations less that of removals;
* a live handle answers as its query does, and any other is unknown;
* a query that was looked up is that of its handle to the end of the run, and answers as the handle
  did then. -/
theorem handle_lifecycle (ops : List Operation) (hroom : (registered ops).length < Handle.words) :
    ((answers {} ops).filterMap Answer.handle? = firstHandles (registered ops).length ∧
      ∀ op f, op.creation? = some (.error f) →
        (after {} ops).step op = (after {} ops, .issued (.error f))) ∧
    (∀ h q, (after {} ops).lookup h = .ok q ↔ issued? ops h = some q ∧ ¬ Disposed ops h) ∧
    (∀ h, ((after {} ops).step (.dispose h)).2 = .disposed true ↔
      (issued? ops h).isSome ∧ ¬ Disposed ops h) ∧
    (∀ h, (Disposed ops h → removalsOf h ops = 1) ∧ (¬ Disposed ops h → removalsOf h ops = 0)) ∧
    (∀ h k, k ≠ h →
      ((after {} ops).step (.dispose h)).1.lookup k = (after {} ops).lookup k) ∧
    (after {} ops).size + removals ops = (registered ops).length ∧
    (∀ h q, issued? ops h = some q → ¬ Disposed ops h →
      ∀ input, (after {} ops).AnswersAs h q input) ∧
    (∀ h, issued? ops h = none ∨ Disposed ops h → (after {} ops).Unknown h) ∧
    (∀ before later h q, ops = before ++ .lookup h :: later → (after {} before).lookup h = .ok q →
      issued? ops h = some q ∧ ∀ input, (after {} before).AnswersAs h q input) := by
  have ht := tracks_after ops hroom
  refine ⟨⟨handles_eq ops hroom, fun op f hop => step_of_creation hop _⟩, ht.lookup_iff, ?_,
    fun h => removalsOf_eq h ops hroom, fun h k hk => lookup_dispose_of_ne _ hk, ht.size, ?_, ?_,
    ?_⟩
  · intro h
    have hremoved := (ht.dispose (removals_concat ops (.dispose h))).1
    rw [← hremoved]
    exact ⟨fun ha => by injection ha, fun hr => congrArg Answer.disposed hr⟩
  · intro h q hissued hlive
    exact answersAs_of_lookup ((ht.lookup_iff h q).mpr ⟨hissued, hlive⟩)
  · intro h hgone
    refine unknown_of_lookup fun q hq => ?_
    obtain ⟨hissued, hlive⟩ := (ht.lookup_iff h q).mp hq
    rcases hgone with hnone | hd
    · rw [hnone] at hissued
      cases hissued
    · exact hlive hd
  · rintro before later h q rfl hq
    have hbefore := length_registered_le before (.lookup h :: later)
    have hissued := ((tracks_after before (by omega)).lookup_iff h q).mp hq
    exact ⟨issued?_append hissued.1 _, answersAs_of_lookup hq⟩

/-- A run that registers twice, with a failure in between, and then disposes of the first handle
twice. -/
def shortRun : List Operation :=
  [.insert ⟨"a", ⟨[], 0⟩, {}⟩, .create "" "m.rego" "", .insert ⟨"b", ⟨[], 0⟩, {}⟩, .lookup ⟨1⟩,
    .dispose ⟨1⟩, .dispose ⟨1⟩]

theorem registered_shortRun :
    registered shortRun = [⟨"a", ⟨[], 0⟩, {}⟩, ⟨"b", ⟨[], 0⟩, {}⟩] := by
  have hfailed : (Operation.create "" "m.rego" "").registers?.isSome = false := by decide +kernel
  have hnone : (Operation.create "" "m.rego" "").registers? = none := by simpa using hfailed
  have hrest := List.filterMap_cons_none (l := shortRun.drop 2) hnone
  exact congrArg (⟨"a", ⟨[], 0⟩, {}⟩ :: ·) hrest

theorem handle_lifecycle_short :
    (answers {} shortRun).filterMap Answer.handle? = [⟨1⟩, ⟨2⟩] ∧
      (after {} shortRun).size + removals shortRun = 2 ∧ removalsOf ⟨1⟩ shortRun = 1 ∧
      (after {} shortRun).Unknown ⟨1⟩ ∧
      (after {} shortRun).lookup ⟨2⟩ = .ok ⟨"b", ⟨[], 0⟩, {}⟩ := by
  have hregistered := registered_shortRun
  have hroom : (registered shortRun).length < Handle.words := by
    rw [hregistered]
    decide
  obtain ⟨⟨hhandles, -⟩, hlookup, -, hremovals, -, hsize, -, hunknown, -⟩ :=
    handle_lifecycle shortRun hroom
  have hdisposed : Disposed shortRun ⟨1⟩ := ⟨shortRun.take 4, [.dispose ⟨1⟩], rfl, rfl⟩
  have hlive : ¬ Disposed shortRun ⟨2⟩ := by
    rintro ⟨before, later, hsplit, -⟩
    have hmem : Operation.dispose ⟨2⟩ ∈ shortRun := by simp [hsplit]
    simp [shortRun] at hmem
  rw [hregistered] at hhandles hsize
  refine ⟨hhandles, hsize, (hremovals ⟨1⟩).1 hdisposed, hunknown ⟨1⟩ (.inr hdisposed), ?_⟩
  refine (hlookup ⟨2⟩ _).mpr ⟨?_, hlive⟩
  rw [issued?, hregistered]
  rfl

end PolicyPack.Registry
