import PolicyPack.Evaluation.PreparedQuery
import PolicyPack.Proofs.Policy.Values

/-!
# The forms of evaluation

All forms of evaluation start from one run. The decision looks for the first defined answer of the
run; the results are the data of all defined answers, and their first entry is the data of the
answer that the decision is made on.
-/

namespace PolicyPack

/-! ### Answers as data -/

/-- A value or a binding of the answer has no data value. -/
def Policy.Answer.Unwritable (a : Policy.Answer) : Prop :=
  (∃ e ∈ a.expressions, ∃ v, e.value = some v ∧ v.Unwritable) ∨
    ∃ b ∈ a.bindings, b.2.Unwritable

theorem bindingsToData?_eq_none {bindings : Dictionary Policy.Value} :
    bindingsToData? bindings = none ↔ ∃ b ∈ bindings, b.2.Unwritable := by
  rw [bindingsToData?, option_mapM_eq_none]
  refine exists_congr fun b => and_congr_right fun _ => ?_
  rw [← Policy.Value.toData?_eq_none]
  cases b.2.toData? <;> simp

theorem expressionToData?_eq {e : Policy.Expression} {v : Policy.Value} (hv : e.value = some v) :
    e.toData? = v.toData?.map fun x => ⟨x, e.text⟩ := by
  rw [Policy.Expression.toData?, hv, Option.bind_eq_bind, Option.bind_some]
  cases v.toData? <;> rfl

theorem expressionsToData?_eq_none {a : Policy.Answer} (ha : a.isDefined = true) :
    a.expressions.mapM Policy.Expression.toData? = none ↔
      ∃ e ∈ a.expressions, ∃ v, e.value = some v ∧ v.Unwritable := by
  rw [option_mapM_eq_none]
  refine exists_congr fun e => and_congr_right fun he => ?_
  obtain ⟨v, hv⟩ := Option.isSome_iff_exists.mp (List.all_eq_true.mp ha e he)
  rw [expressionToData?_eq hv, Option.map_eq_none_iff, Policy.Value.toData?_eq_none, hv]
  simp

theorem ofAnswer_code {a : Policy.Answer} {f : Failure} (h : ResultEntry.ofAnswer a = .error f) :
    f.code = .evaluation := by
  unfold ResultEntry.ofAnswer at h
  split at h
  · cases h
  · cases h
    rfl

theorem ofAnswer_eq_ok {a : Policy.Answer} {entry : ResultEntry}
    (h : ResultEntry.ofAnswer a = .ok entry) :
    a.expressions.mapM Policy.Expression.toData? = some entry.expressions ∧
      bindingsToData? a.bindings = some entry.bindings := by
  unfold ResultEntry.ofAnswer at h
  split at h
  · next hexpressions hbindings =>
    cases h
    exact ⟨hexpressions, hbindings⟩
  · cases h

/-- A defined answer is no result exactly when a value or a binding of it has no data value. -/
theorem ofAnswer_fails {a : Policy.Answer} (ha : a.isDefined = true) :
    (∃ f, ResultEntry.ofAnswer a = .error f) ↔ a.Unwritable := by
  rw [Policy.Answer.Unwritable, ← expressionsToData?_eq_none ha, ← bindingsToData?_eq_none,
    ResultEntry.ofAnswer]
  cases a.expressions.mapM Policy.Expression.toData? with
  | none => simp
  | some expressions => cases bindingsToData? a.bindings <;> simp

/-! ### The first expression -/

/-- The first expression of the first of the results. -/
def FirstExpression (entries : List ResultEntry) (e : ExpressionValue) : Prop :=
  ∃ entry rest more, entries = entry :: rest ∧ entry.expressions = e :: more

theorem firstExpression_iff {entries : List ResultEntry} {e : ExpressionValue} :
    FirstExpression entries e ↔
      (entries.head?.bind fun entry => entry.expressions.head?) = some e := by
  rw [Option.bind_eq_some_iff]
  constructor
  · rintro ⟨entry, rest, more, rfl, hmore⟩
    exact ⟨entry, rfl, by rw [hmore]; rfl⟩
  · rintro ⟨entry, hentry, he⟩
    obtain ⟨rest, hrest⟩ := List.head?_eq_some_iff.mp hentry
    obtain ⟨more, hmore⟩ := List.head?_eq_some_iff.mp he
    exact ⟨entry, rest, more, hrest, hmore⟩

theorem FirstExpression.unique {entries : List ResultEntry} {e e' : ExpressionValue}
    (h : FirstExpression entries e) (h' : FirstExpression entries e') : e = e' := by
  rw [firstExpression_iff] at h h'
  rw [h, Option.some.injEq] at h'
  exact h'

/-- Only a truth value is written as one. -/
theorem expressionToData?_eq_bool {e : Policy.Expression} {x : ExpressionValue}
    (h : e.toData? = some x) (b : Bool) : x.value = .bool b ↔ e.value = some (.bool b) := by
  obtain ⟨v, hv, h⟩ := Option.bind_eq_some_iff.mp h
  obtain ⟨y, hy, h⟩ := Option.bind_eq_some_iff.mp h
  cases h
  rw [hv, Option.some.injEq, ← Policy.Value.toData?_eq_bool, hy, Option.some.injEq]

theorem decisionOf_eq_true {a : Policy.Answer} : PreparedQuery.decisionOf a = true ↔
    a.expressions.head?.bind Policy.Expression.value = some (.bool true) := by
  unfold PreparedQuery.decisionOf
  split <;> simp_all

/-- The decision of an answer is positive when its first expression is written as true. -/
theorem decisionOf_eq_true_iff {a : Policy.Answer} {entry : ResultEntry}
    (h : ResultEntry.ofAnswer a = .ok entry) : PreparedQuery.decisionOf a = true ↔
      ∃ e, entry.expressions.head? = some e ∧ e.value = .bool true := by
  have hhead := head?_of_option_mapM (ofAnswer_eq_ok h).1
  rw [decisionOf_eq_true]
  cases he : a.expressions.head? with
  | none =>
    rw [he, Option.map_none] at hhead
    rw [Option.map_eq_none_iff.mp hhead.symm]
    simp
  | some e =>
    rw [he, Option.map_some] at hhead
    obtain ⟨x, hx, hex⟩ := Option.map_eq_some_iff.mp hhead.symm
    rw [hx, Option.bind_some, ← expressionToData?_eq_bool hex.symm]
    simp

namespace PreparedQuery

variable {q : PreparedQuery} {input : String}

theorem decide_eq_ok {b : Bool} : q.decide input = .ok b ↔ ∃ answers, q.run input = .ok answers ∧
    b = ((answers.find? Policy.Answer.isDefined).map decisionOf).getD false := by
  rw [decide, bind_eq_ok]
  refine exists_congr fun answers => and_congr_right fun _ => ?_
  rw [pure_eq_ok, Except.ok.injEq, eq_comm]

theorem decide_eq_error {f : Failure} : q.decide input = .error f ↔ q.run input = .error f := by
  rw [decide, bind_eq_error]
  simp

theorem evaluate_eq_ok {entries : List ResultEntry} : q.evaluate input = .ok entries ↔
    ∃ answers, q.run input = .ok answers ∧
      (answers.filter Policy.Answer.isDefined).mapM ResultEntry.ofAnswer = .ok entries :=
  bind_eq_ok

/-- The decision is positive exactly when the first expression of the results is true. -/
theorem decide_of_evaluate {b : Bool} {entries : List ResultEntry} (hb : q.decide input = .ok b)
    (hentries : q.evaluate input = .ok entries) :
    b = true ↔ ∃ e, FirstExpression entries e ∧ e.value = .bool true := by
  obtain ⟨answers, hrun, rfl⟩ := decide_eq_ok.mp hb
  obtain ⟨answers', hrun', hmap⟩ := evaluate_eq_ok.mp hentries
  rw [hrun] at hrun'
  cases hrun'
  have hhead := head?_of_mapM_eq_ok hmap
  rw [List.head?_filter] at hhead
  simp only [firstExpression_iff]
  cases ha : answers.find? Policy.Answer.isDefined with
  | none =>
    rw [ha, Option.map_none] at hhead
    rw [Option.map_eq_none_iff.mp hhead.symm]
    simp
  | some a =>
    rw [ha, Option.map_some] at hhead
    obtain ⟨entry, hentry, hok⟩ := Option.map_eq_some_iff.mp hhead.symm
    rw [hentry]
    exact decisionOf_eq_true_iff hok.symm

/-- The results of a run fail exactly when a defined answer cannot be written. -/
theorem evaluate_fails {answers : List Policy.Answer} (h : q.run input = .ok answers) :
    (∃ f, q.evaluate input = .error f) ↔
      ∃ a ∈ answers, a.isDefined = true ∧ a.Unwritable := by
  rw [evaluate, h, ok_bind, mapM_fails]
  constructor
  · rintro ⟨a, ha, hfails⟩
    obtain ⟨hmem, hdefined⟩ := List.mem_filter.mp ha
    exact ⟨a, hmem, hdefined, (ofAnswer_fails hdefined).mp hfails⟩
  · rintro ⟨a, hmem, hdefined, hunwritable⟩
    exact ⟨a, List.mem_filter.mpr ⟨hmem, hdefined⟩, (ofAnswer_fails hdefined).mpr hunwritable⟩

theorem evaluate_code {answers : List Policy.Answer} {f : Failure}
    (h : q.run input = .ok answers) (hf : q.evaluate input = .error f) : f.code = .evaluation := by
  rw [evaluate, h, ok_bind] at hf
  obtain ⟨a, -, ha⟩ := exists_of_mapM_eq_error hf
  exact ofAnswer_code ha

/-! ### Typed evaluation -/

theorem evaluateAs_eq_ok {α : Type} {kind : Json.Conversion α} {x : Json.Value} {y : α}
    (h : q.evaluateAs kind x = .ok y) : ∃ entries e, q.evaluate x.render = .ok entries ∧
      FirstExpression entries e ∧ kind e.value = .ok y := by
  obtain ⟨entries, hentries, h⟩ := bind_eq_ok.mp h
  split at h
  · cases h
  · next e he =>
    split at h
    · next z hz =>
      cases h
      exact ⟨entries, e, hentries, firstExpression_iff.mpr he, hz⟩
    · cases h

theorem evaluateAs_of_first {α : Type} {kind : Json.Conversion α} {x : Json.Value}
    {entries : List ResultEntry} {e : ExpressionValue} {y : α}
    (h : q.evaluate x.render = .ok entries) (he : FirstExpression entries e)
    (hy : kind e.value = .ok y) : q.evaluateAs kind x = .ok y := by
  simp only [evaluateAs, h, ok_bind, firstExpression_iff.mp he, hy, pure_eq_ok]

theorem evaluateAs_of_none {α : Type} (kind : Json.Conversion α) {x : Json.Value}
    {entries : List ResultEntry} (h : q.evaluate x.render = .ok entries)
    (hnone : ∀ e, ¬ FirstExpression entries e) :
    q.evaluateAs kind x = .error (.evaluation .undefined) := by
  have hfirst : (entries.head?.bind fun entry => entry.expressions.head?) = none :=
    Option.eq_none_iff_forall_ne_some.mpr fun e he => hnone e (firstExpression_iff.mpr he)
  simp only [evaluateAs, h, ok_bind, hfirst, throw_eq_error]

theorem asBool_eq_ok {x : Json.Value} {b : Bool} : Json.asBool x = .ok b ↔ x = .bool b := by
  cases x <;> simp [Json.asBool]

/-- A value that is read as a truth value is the decision. -/
theorem decide_of_evaluateAs {x : Json.Value} {b : Bool}
    (h : q.evaluateAs Json.asBool x = .ok b) : q.decide x.render = .ok b := by
  obtain ⟨entries, e, hentries, hfirst, hb⟩ := evaluateAs_eq_ok h
  obtain ⟨answers, hrun, -⟩ := evaluate_eq_ok.mp hentries
  have hdecide := decide_eq_ok.mpr ⟨answers, hrun, rfl⟩
  have hiff := decide_of_evaluate hdecide hentries
  rw [hdecide, Except.ok.injEq, Bool.eq_iff_iff, hiff]
  constructor
  · rintro ⟨e', hfirst', he'⟩
    rw [hfirst.unique hfirst', he'] at hb
    cases hb
    rfl
  · rintro rfl
    exact ⟨e, hfirst, asBool_eq_ok.mp hb⟩

end PreparedQuery

/-! ### Agreement -/

/-- The forms of evaluation agree. The decision fails exactly as the run does, and then every form
fails alike; it is positive exactly when the first expression of the results is true. Where there is
a decision, the results fail only for a defined answer that cannot be written. A typed evaluation
gives the decision as a truth value, and the value of the first expression as data. -/
theorem PreparedQuery.evaluation_forms_agree (q : PreparedQuery) (input : String) :
    (∀ f, (q.decide input = .error f ↔ q.run input = .error f) ∧
      (q.run input = .error f → q.evaluate input = .error f ∧ q.evaluateToText input = .error f)) ∧
    (∀ b entries, q.decide input = .ok b → q.evaluate input = .ok entries →
      (b = true ↔ ∃ e, FirstExpression entries e ∧ e.value = .bool true)) ∧
    (∀ b, q.decide input = .ok b →
      ((∃ f, q.evaluate input = .error f) ↔
        ∃ answers, q.run input = .ok answers ∧
          ∃ a ∈ answers, a.isDefined = true ∧ a.Unwritable) ∧
      ∀ f, q.evaluate input = .error f → f.code = .evaluation) ∧
    ∀ x : Json.Value,
      (∀ b, q.evaluateAs Json.asBool x = .ok b → q.decide x.render = .ok b) ∧
      ∀ entries, q.evaluate x.render = .ok entries →
        (∀ e, FirstExpression entries e → q.evaluateAs Json.asValue x = .ok e.value) ∧
        (entries = [] ∨ (∃ entry rest, entries = entry :: rest ∧ entry.expressions = []) →
          ∃ f, q.evaluateAs Json.asValue x = .error f ∧
            f.code = .evaluation ∧ f.message = "undefined") := by
  refine ⟨fun f => ⟨decide_eq_error, fun h => ?_⟩, fun b entries => decide_of_evaluate,
    fun b hb => ?_, fun x => ⟨fun b => decide_of_evaluateAs, fun entries h => ⟨fun e he => ?_, ?_⟩⟩⟩
  · have hevaluate : q.evaluate input = .error f := by rw [evaluate, h, error_bind]
    exact ⟨hevaluate, by rw [evaluateToText, hevaluate, error_bind]⟩
  · obtain ⟨answers, hrun, -⟩ := decide_eq_ok.mp hb
    refine ⟨?_, fun f => evaluate_code hrun⟩
    rw [evaluate_fails hrun, hrun]
    simp
  · exact evaluateAs_of_first h he rfl
  · intro hempty
    refine ⟨_, evaluateAs_of_none Json.asValue h ?_, rfl, rfl⟩
    rintro e ⟨entry, rest, more, hentries, hmore⟩
    rcases hempty with hnil | ⟨entry', rest', hcons, hnone⟩
    · rw [hnil] at hentries
      cases hentries
    · rw [hcons] at hentries
      cases hentries
      rw [hnone] at hmore
      cases hmore

end PolicyPack
