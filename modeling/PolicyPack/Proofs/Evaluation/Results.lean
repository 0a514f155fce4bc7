import PolicyPack.Proofs.Evaluation.Forms
import PolicyPack.Proofs.Json.Printable
import PolicyPack.Proofs.Policy.Scopes

/-!
# Results read back

The results of an evaluation are well-formed: their values are those of policy values, and their
bindings increase by name. So the text of results holds no control characters, and reading it gives
the results back, as long as their values leave four levels of nesting for what is around them.
-/

namespace PolicyPack

open Json

/-- The values in a result: those of its expressions and those of its variables. -/
def ResultEntry.values (e : ResultEntry) : List Json.Value :=
  e.expressions.map ExpressionValue.value ++ e.bindings.map Prod.snd

theorem ResultEntry.forall_mem_values {e : ResultEntry} {P : Json.Value → Prop} :
    (∀ v ∈ e.values, P v) ↔ (∀ x ∈ e.expressions, P x.value) ∧ ∀ b ∈ e.bindings, P b.2 := by
  rw [values, List.forall_mem_append, List.forall_mem_map, List.forall_mem_map]

/-! ### Well-formed results -/

structure ResultEntry.WellFormed (e : ResultEntry) : Prop where
  values : ∀ v ∈ e.values, v.WellFormed
  bindings : Dictionary.Sorted e.bindings

theorem bindingToData?_eq_some {b : String × Policy.Value} {d : String × Json.Value}
    (h : (show Option (String × Json.Value) from do return (b.1, ← b.2.toData?)) = some d) :
    b.1 = d.1 ∧ b.2.toData? = some d.2 := by
  obtain ⟨x, hx, h⟩ := Option.bind_eq_some_iff.mp h
  cases h
  exact ⟨rfl, hx⟩

theorem bindingsToData?_sorted {bindings : Dictionary Policy.Value} {data : Dictionary Json.Value}
    (h : bindingsToData? bindings = some data) (hs : Dictionary.Sorted bindings) :
    Dictionary.Sorted data := by
  rw [bindingsToData?] at h
  induction bindings generalizing data with
  | nil =>
    cases h
    exact Dictionary.sorted_nil
  | cons b r ih =>
    obtain ⟨hb, hr⟩ := Dictionary.sorted_cons.mp hs
    rw [List.mapM_cons] at h
    obtain ⟨d, hd, h⟩ := Option.bind_eq_some_iff.mp h
    obtain ⟨ds, hds, h⟩ := Option.bind_eq_some_iff.mp h
    cases h
    refine Dictionary.sorted_cons.mpr ⟨fun f hf => ?_, ih hds hr⟩
    obtain ⟨c, hc, hcf⟩ := exists_of_mem_option_mapM hds hf
    rw [← (bindingToData?_eq_some hd).1, ← (bindingToData?_eq_some hcf).1]
    exact hb c hc

theorem ofAnswer_wellFormed {a : Policy.Answer} {entry : ResultEntry}
    (h : ResultEntry.ofAnswer a = .ok entry) (ha : Dictionary.Sorted a.bindings) :
    entry.WellFormed := by
  obtain ⟨hexpressions, hbindings⟩ := ofAnswer_eq_ok h
  refine ⟨ResultEntry.forall_mem_values.mpr ⟨fun x hx => ?_, fun b hb => ?_⟩,
    bindingsToData?_sorted hbindings ha⟩
  · obtain ⟨e, -, he⟩ := exists_of_mem_option_mapM hexpressions hx
    obtain ⟨v, -, he⟩ := Option.bind_eq_some_iff.mp he
    obtain ⟨y, hy, he⟩ := Option.bind_eq_some_iff.mp he
    cases he
    exact Policy.Value.toData?_wellFormed hy
  · obtain ⟨c, -, hc⟩ := exists_of_mem_option_mapM hbindings hb
    exact Policy.Value.toData?_wellFormed (bindingToData?_eq_some hc).2

theorem PreparedQuery.run_sorted {q : PreparedQuery} {input : String} {answers : List Policy.Answer}
    (h : q.run input = .ok answers) : ∀ a ∈ answers, Dictionary.Sorted a.bindings := by
  unfold run at h
  split at h
  · cases h
  · split at h
    · next l hl =>
      cases h
      exact Policy.Query.sorted_of_answers hl
    · cases h

theorem PreparedQuery.evaluate_wellFormed {q : PreparedQuery} {input : String}
    {entries : List ResultEntry} (h : q.evaluate input = .ok entries) :
    ∀ e ∈ entries, e.WellFormed := by
  obtain ⟨answers, hrun, hmap⟩ := evaluate_eq_ok.mp h
  intro e he
  obtain ⟨a, ha, hok⟩ := exists_of_mem_mapM hmap he
  exact ofAnswer_wellFormed hok (run_sorted hrun a (List.mem_filter.mp ha).1)

/-! ### No control characters -/

theorem ExpressionValue.printable_render (e : ExpressionValue) : Printable e.render.toList := by
  rw [render]
  refine printable_objectOf ?_
  rw [List.forall_mem_cons, List.forall_mem_singleton]
  refine ⟨e.value.printable_render, ?_⟩
  rw [toList_quote]
  exact printable_quoteChars e.text

theorem ResultEntry.printable_render (e : ResultEntry) : Printable e.render.toList := by
  have hexpressions : Printable (arrayOf (e.expressions.map ExpressionValue.render)).toList := by
    refine printable_arrayOf ?_
    rw [List.forall_mem_map]
    exact fun x _ => x.printable_render
  rw [render]
  refine printable_objectOf ?_
  rw [List.forall_mem_cons]
  refine ⟨hexpressions, ?_⟩
  split
  · simp
  · rw [List.forall_mem_singleton]
    exact Value.printable_render _

theorem printable_renderResults (entries : List ResultEntry) :
    Printable (renderResults entries).toList := by
  refine printable_arrayOf ?_
  rw [List.forall_mem_map]
  exact fun e _ => e.printable_render

/-! ### Reading back -/

theorem reads_anyValue {levels : Nat} {v : Json.Value} (hn : v.nesting ≤ levels)
    (hv : v.WellFormed) (hr : v.NumbersReadBack) :
    Reads (anyValue levels) v.render.toList (.ok v) := by
  rw [← make_self hn hv hr]
  exact reads_value valueBuilder v levels

theorem reads_expression {levels : Nat} {e : ExpressionValue} (hn : e.value.nesting ≤ levels)
    (hv : e.value.WellFormed) (hr : e.value.NumbersReadBack) :
    Reads (ExpressionValue.record.read (levels + 1)) e.render.toList (.ok e) := by
  have hvalue := Record.reads_field ExpressionValue.record.fields[0] levels {}
    (reads_anyValue hn hv hr) (fun x => ⟨some x, none⟩) fun _ => rfl
  have htext := Record.reads_field ExpressionValue.record.fields[1] levels ⟨some e.value, none⟩
    (reads_text e.text) (fun x => ⟨some e.value, some x⟩) fun _ => rfl
  have hfills : ExpressionValue.record.Fills levels ExpressionValue.record.blank
      [("value", e.value.render.toList), ("text", (quote e.text).toList)]
      (.ok ⟨some e.value, some e.text⟩) :=
    .field _ rfl rfl hvalue (.field _ rfl rfl htext (.done _))
  exact Record.reads_object (l := [("value", e.value.render), ("text", quote e.text)]) hfills

theorem reads_expressions {levels : Nat} {l : List ExpressionValue}
    (h : ∀ x ∈ l, x.value.nesting ≤ levels ∧ x.value.WellFormed ∧ x.value.NumbersReadBack) :
    Reads (listOf ExpressionValue.record.read (levels + 2))
      (arrayOf (l.map ExpressionValue.render)).toList (.ok l) := by
  have hlist : Reads (listOf ExpressionValue.record.read (levels + 2))
      (arrayOf (l.map ExpressionValue.render)).toList (l.mapM Except.ok) :=
    reads_listOf (fun _ _ => beginsValue_objectOf _) fun x hx =>
      reads_expression (h x hx).1 (h x hx).2.1 (h x hx).2.2
  rwa [mapM_ok] at hlist

theorem reads_bindings {levels : Nat} {l : Dictionary Json.Value} (hs : Dictionary.Sorted l)
    (h : ∀ b ∈ l, b.2.nesting ≤ levels ∧ b.2.WellFormed ∧ b.2.NumbersReadBack) :
    Reads (mapOfValues (levels + 1)) (Json.Value.object l).render.toList (.ok l) := by
  obtain ⟨x, hx, hmake⟩ := reads_mapOfValues (levels + 1) l
  have hself : valueBuilder.make (levels + 1) (.object l) = .ok (.object l) :=
    make_self (Value.nesting_object_le.mpr ⟨levels, rfl, fun b hb => (h b hb).1⟩)
      (.object hs fun b hb => (h b hb).2.1) (.object trivial fun b hb => (h b hb).2.2)
  rw [hself] at hmake
  cases x with
  | error f => cases hmake
  | ok data =>
    cases hmake
    exact hx

/-- Bindings that are not written are read as none. -/
theorem reads_entry {levels : Nat} {e : ResultEntry} (he : e.WellFormed)
    (h : ∀ v ∈ e.values, v.nesting ≤ levels ∧ v.NumbersReadBack) :
    Reads (ResultEntry.record.read (levels + 3)) e.render.toList (.ok e) := by
  obtain ⟨expressions, bindings⟩ := e
  obtain ⟨hx, hb⟩ := ResultEntry.forall_mem_values.mp h
  obtain ⟨hwx, hwb⟩ := ResultEntry.forall_mem_values.mp he.values
  have hexpressions := Record.reads_field ResultEntry.record.fields[0] (levels + 2) {}
    (reads_expressions fun x hmem => ⟨(hx x hmem).1, hwx x hmem, (hx x hmem).2⟩)
    (fun l => ⟨some l, none⟩) fun _ => rfl
  cases bindings with
  | nil =>
    have hfills : ResultEntry.record.Fills (levels + 2) ResultEntry.record.blank
        [("expressions", (arrayOf (expressions.map ExpressionValue.render)).toList)]
        (.ok ⟨some expressions, none⟩) := .field _ rfl rfl hexpressions (.done _)
    exact Record.reads_object
      (l := [("expressions", arrayOf (expressions.map ExpressionValue.render))]) hfills
  | cons b r =>
    have hbindings := Record.reads_field ResultEntry.record.fields[1] (levels + 2)
      ⟨some expressions, none⟩
      (reads_bindings he.bindings fun c hmem =>
        ⟨Nat.le_succ_of_le (hb c hmem).1, hwb c hmem, (hb c hmem).2⟩)
      (fun l => ⟨some expressions, some l⟩) fun _ => rfl
    have hfills : ResultEntry.record.Fills (levels + 2) ResultEntry.record.blank
        [("expressions", (arrayOf (expressions.map ExpressionValue.render)).toList),
          ("bindings", (Json.Value.object (b :: r)).render.toList)]
        (.ok ⟨some expressions, some (b :: r)⟩) :=
      .field _ rfl rfl hexpressions (.field _ rfl rfl hbindings (.done _))
    exact Record.reads_object
      (l := [("expressions", arrayOf (expressions.map ExpressionValue.render)),
        ("bindings", (Json.Value.object (b :: r)).render)]) hfills

/-- The text of well-formed results is read as these results. -/
theorem resultsOfText_renderResults {entries : List ResultEntry} (he : ∀ e ∈ entries, e.WellFormed)
    (h : ∀ e ∈ entries, ∀ v ∈ e.values, v.nesting ≤ 123 ∧ v.NumbersReadBack) :
    resultsOfText (renderResults entries) = .ok entries := by
  have hlist : Reads (listOf ResultEntry.record.read (123 + 3 + 1)) (renderResults entries).toList
      (entries.mapM Except.ok) :=
    reads_listOf (fun _ _ => beginsValue_objectOf _) fun e hmem =>
      reads_entry (he e hmem) (h e hmem)
  have hread := hlist [] ends_nil
  rw [List.append_nil, ← symbolsOfText, mapM_ok] at hread
  rw [resultsOfText, show nestingLimit = 123 + 3 + 1 from rfl, hread]
  rfl

end PolicyPack
