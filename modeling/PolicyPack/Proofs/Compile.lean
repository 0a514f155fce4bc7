import PolicyPack.Proofs.Artifact

/-!
# What the compiler accepts and its consumer reads

The compiler reads the text of the data on its own, with all levels of nesting for it. The artifact
has the same text one level deeper, inside of a record. So data that use the last level are compiled,
and their artifact is refused; all other data are read alike on both sides, up to what their numbers
read as the second time.
-/

namespace PolicyPack

open Json

theorem addData_eq_ok {p q : Policy.Program} {data : Dictionary Value} (h : addData p data = .ok q) :
    (Value.object data).nesting ≤ 127 ∧ (Value.object data).NumbersRead := by
  unfold addData at h
  split at h
  · next hempty =>
    obtain rfl := List.isEmpty_iff.mp hempty
    exact ⟨by decide, .object trivial (by simp)⟩
  · have hread := whole_value_render Policy.Value.builder nestingLimit (.object data)
    rw [Policy.Value.ofText, hread] at h
    cases hmake : Policy.Value.builder.make nestingLimit (.object data) with
    | error f =>
      rw [hmake] at h
      cases h
    | ok v => exact Builder.nesting_le_and_numbersRead hmake

theorem prepare_eq_ok {query : String} {modules : List (String × String)}
    {data : Dictionary Value} {p : PreparedQuery} (h : prepare query modules data = .ok p) :
    p.text = query ∧ (Value.object data).nesting ≤ 127 ∧ (Value.object data).NumbersRead := by
  unfold prepare at h
  obtain ⟨p₀, -, h⟩ := bind_eq_ok.mp h
  obtain ⟨p₁, hdata, h⟩ := bind_eq_ok.mp h
  obtain ⟨q, -, h⟩ := bind_eq_ok.mp h
  cases h
  exact ⟨rfl, addData_eq_ok hdata⟩

/-! ### Objects nested in objects -/

/-- An empty object under so many keys. -/
def nestedObject (n : Nat) : Value := nestUnder (List.replicate n "a") (.object [])

theorem nestedObject_succ (n : Nat) :
    nestedObject (n + 1) = .object [("a", nestedObject n)] := by
  rw [nestedObject, List.replicate_succ]
  rfl

theorem nesting_nestedObject (n : Nat) : (nestedObject n).nesting = n + 1 := by
  induction n with
  | zero => rfl
  | succ n ih => simp [nestedObject_succ, Value.nesting, Value.entriesNesting, ih]

theorem numbersRead_nestedObject (n : Nat) : (nestedObject n).NumbersRead := by
  induction n with
  | zero => exact .object trivial (by simp)
  | succ n ih =>
    rw [nestedObject_succ]
    exact .object trivial (by simpa using ih)

/-- An empty document is merged into an empty set under any number of keys. -/
theorem withData_nestedObject (n : Nat) (origin : Path) :
    SourceSet.withData {} (List.replicate (n + 1) "a") (.object []) origin
      = .ok { data := [("a", nestedObject n)] } := by
  rw [SourceSet.withData, SourceSet.mergeData, ← nestedObject, nestedObject_succ]
  rfl

/-- The policy value of an empty object under so many keys. -/
def nestedPolicyObject : Nat → Policy.Value
  | 0 => .object []
  | n + 1 => .object [(.string "a", nestedPolicyObject n)]

theorem make_nestedObject {n levels : Nat} (h : n < levels) :
    Policy.Value.builder.make levels (nestedObject n) = .ok (nestedPolicyObject n) := by
  induction n generalizing levels with
  | zero =>
    obtain ⟨levels, rfl⟩ := Nat.exists_eq_add_of_lt h
    rfl
  | succ n ih =>
    obtain ⟨levels, rfl⟩ : ∃ k, levels = k + 1 := ⟨levels - 1, by omega⟩
    have hwrapped : Policy.Value.builder.wrapped "a" (nestedPolicyObject n) = none := by
      cases n <;> rfl
    rw [nestedObject_succ, Builder.make, ih (by omega)]
    simp only [ok_bind, hwrapped]
    rfl

/-- Nested objects are compiled up to the last level, if the query is bound to them. -/
theorem compileSources_nestedObject {n : Nat} (h : n < 126) {q : Policy.Query}
    (hq : bindQuery { data := nestedPolicyObject (n + 1) } "data" = .ok q) :
    compileSources "data" { data := [("a", nestedObject n)] }
      = .ok (Artifact.encode "data" { data := [("a", nestedObject n)] }) := by
  have hread : Policy.Value.ofText (Value.object [("a", nestedObject n)]).render
      = .ok (nestedPolicyObject (n + 1)) := by
    rw [← nestedObject_succ, Policy.Value.ofText, whole_value_render]
    exact make_nestedObject (Nat.succ_lt_succ h)
  have hdata : addData {} [("a", nestedObject n)] = .ok { data := nestedPolicyObject (n + 1) } := by
    rw [addData, hread]
    rfl
  rw [compileSources_eq, prepare, addModules, List.foldlM_nil, pure_eq_ok, ok_bind, hdata, ok_bind,
    hq]
  rfl

/-! ### The consumer -/

/-- What is compiled nests at most 127 levels. At the last level the artifact is refused. Below it
the query is prepared from the artifact by the modules of the sources and by their data as these
read back, and it keeps its text; it is prepared for certain if the numbers read back. -/
theorem prepareArtifact_of_compileSources {query : String} {s : SourceSet} {a : Artifact}
    (h : compileSources query s = .ok a) :
    (Value.object s.data).nesting ≤ 127 ∧
    ((Value.object s.data).nesting = 127 →
      prepareArtifact a = .error (.compile (.artifact .tooDeep))) ∧
    ((Value.object s.data).nesting ≤ 126 →
      (∃ data, Value.ofText (Value.object s.data).render = .ok (.object data) ∧
        prepareArtifact a = prepare query s.modules data) ∧
      (s.WellFormed → (Value.object s.data).NumbersReadBack →
        ∃ p, prepareArtifact a = .ok p)) ∧
    ∀ p, prepareArtifact a = .ok p → p.text = query := by
  rw [compileSources_eq] at h
  obtain ⟨p, hp, rfl⟩ := map_eq_ok.mp h
  obtain ⟨-, hnesting, hnumbers⟩ := prepare_eq_ok hp
  have hshallow (hn : (Value.object s.data).nesting ≤ 126) :
      ∃ data, Value.ofText (Value.object s.data).render = .ok (.object data) ∧
        prepareArtifact (Artifact.encode query s) = prepare query s.modules data := by
    obtain ⟨data, htext, hdecode⟩ := Artifact.exists_decode_encode_data query hn hnumbers
    refine ⟨data, htext, ?_⟩
    have hmodules := Artifact.modules_contentOf query s
    rw [prepareArtifact_of_decode hdecode, hmodules]
    rfl
  have hdeep (hn : 126 < (Value.object s.data).nesting) :
      prepareArtifact (Artifact.encode query s) = .error (.compile (.artifact .tooDeep)) :=
    prepareArtifact_of_decode_error (Artifact.decode_encode_tooDeep query hn hnumbers)
  refine ⟨hnesting, fun hn => hdeep (by omega), fun hn => ⟨hshallow hn, fun hs hr => ?_⟩, ?_⟩
  · have hdecode := Artifact.decode_encode query hs hn hr
    have hmodules := Artifact.modules_contentOf query s
    refine ⟨p, ?_⟩
    rw [prepareArtifact_of_decode hdecode, hmodules]
    exact hp
  · intro q hq
    rcases Nat.lt_or_ge 126 (Value.object s.data).nesting with hn | hn
    · rw [hdeep hn] at hq
      cases hq
    · obtain ⟨data, -, heq⟩ := hshallow hn
      exact (prepare_eq_ok (heq.symm.trans hq)).1

theorem prepareArtifact_of_compileSources_shallow :
    ∃ a, compileSources "data" { data := [("a", nestedObject 0)] } = .ok a ∧
      ∃ p, prepareArtifact a = .ok p := by
  have hq : (bindQuery { data := nestedPolicyObject 1 } "data").toOption.isSome = true := by
    decide +kernel
  cases hbind : bindQuery { data := nestedPolicyObject 1 } "data" with
  | error f => simp [hbind, Except.toOption] at hq
  | ok q =>
    have hcompile := compileSources_nestedObject (n := 0) (by decide) hbind
    obtain ⟨-, -, hshallow, -⟩ := prepareArtifact_of_compileSources hcompile
    have hs : SourceSet.WellFormed { data := [("a", nestedObject 0)] } :=
      ⟨Dictionary.sorted_nil, .object (by decide) (by simp [nestedObject, nestUnder,
        Dictionary.sorted_nil])⟩
    exact ⟨_, hcompile, (hshallow (by decide)).2 hs (by simp [nestedObject, nestUnder])⟩

/-- An empty document merged under 126 keys is compiled, and the artifact is refused. -/
theorem prepareArtifact_refuses_last_level :
    ∃ s a, SourceSet.withData {} (List.replicate 126 "a") (.object []) ⟨"d"⟩ = .ok s ∧
      compileSources "data" s = .ok a ∧
      prepareArtifact a = .error (.compile (.artifact .tooDeep)) := by
  have hq : (bindQuery { data := nestedPolicyObject 126 } "data").toOption.isSome = true := by
    decide +kernel
  cases hbind : bindQuery { data := nestedPolicyObject 126 } "data" with
  | error f => simp [hbind, Except.toOption] at hq
  | ok q =>
    have hnesting : 126 < (Value.object [("a", nestedObject 125)]).nesting := by
      rw [← nestedObject_succ, nesting_nestedObject]
      decide
    have hnumbers : (Value.object [("a", nestedObject 125)]).NumbersRead :=
      nestedObject_succ 125 ▸ numbersRead_nestedObject 126
    exact ⟨_, _, withData_nestedObject 125 _, compileSources_nestedObject (by decide) hbind,
      prepareArtifact_of_decode_error (Artifact.decode_encode_tooDeep "data" hnesting hnumbers)⟩

/-! ### One module -/

theorem addModules_code {p : Policy.Program} {modules : List (String × String)} {f : Failure}
    (h : addModules p modules = .error f) : f.code = .compile := by
  induction modules generalizing p with
  | nil => cases h
  | cons m modules ih =>
    rw [addModules, List.foldlM_cons] at h
    rcases bind_eq_error.mp h with h | ⟨p', -, h⟩
    · unfold addModule at h
      split at h
      · cases h
      · cases h
        rfl
    · exact ih h

theorem addData_code {p : Policy.Program} {data : Dictionary Value} {f : Failure}
    (h : addData p data = .error f) : f.code = .compile := by
  unfold addData at h
  split at h
  · cases h
  · split at h
    · cases h
      rfl
    · cases h
    · cases h
      rfl

theorem bindQuery_code {p : Policy.Program} {query : String} {f : Failure}
    (h : bindQuery p query = .error f) : f.code = .compile := by
  unfold bindQuery at h
  split at h
  · cases h
    rfl
  · simp only at h
    split at h
    · cases h
    · cases h
      rfl

/-- Whatever keeps a query from being prepared is a fault of compiling. -/
theorem prepare_code {query : String} {modules : List (String × String)} {data : Dictionary Value}
    {f : Failure} (h : prepare query modules data = .error f) : f.code = .compile := by
  unfold prepare at h
  rcases bind_eq_error.mp h with h | ⟨p, -, h⟩
  · exact addModules_code h
  rcases bind_eq_error.mp h with h | ⟨p', -, h⟩
  · exact addData_code h
  rcases bind_eq_error.mp h with h | ⟨q, -, h⟩
  · exact bindQuery_code h
  · cases h

/-- A set of modules without data goes through its artifact unchanged. -/
theorem compileSources_bind_prepareArtifact (query : String) {s : SourceSet}
    (hs : Dictionary.Sorted s.modules) (hdata : s.data = []) :
    (compileSources query s >>= prepareArtifact) = prepare query s.modules s.data := by
  have hempty : (Value.object s.data).WellFormed := by
    rw [hdata]
    exact .object Dictionary.sorted_nil (List.forall_mem_nil _)
  have hnesting : (Value.object s.data).nesting ≤ 126 := by
    rw [hdata]
    decide
  have hnumbers : (Value.object s.data).NumbersReadBack := by
    rw [hdata]
    simp
  have hdecode := Artifact.decode_encode query ⟨hs, hempty⟩ hnesting hnumbers
  have hprepare : prepareArtifact (Artifact.encode query s) = prepare query s.modules s.data := by
    have hmodules := Artifact.modules_contentOf query s
    rw [prepareArtifact_of_decode hdecode, hmodules]
    rfl
  rw [compileSources_eq]
  cases h : prepare query s.modules s.data with
  | error f => rfl
  | ok p => rw [map_ok, ok_bind, hprepare, h]

/-- A module that is compiled on its own gives the very query that is prepared from the artifact of
the set with this module and no data, or the same failure to compile. So the one succeeds when the
other does, and the two queries have the same text and the same answers to every input. -/
theorem compileModule_eq_prepareArtifact (query name source : String) :
    ∃ s, SourceSet.addModule {} name source = .ok s ∧ s.modules = [(name, source)] ∧ s.data = [] ∧
      compileModule query name source = (compileSources query s >>= prepareArtifact) ∧
      ((∃ p, compileModule query name source = .ok p) ↔
        ∃ a p, compileSources query s = .ok a ∧ prepareArtifact a = .ok p) ∧
      (∀ p a p', compileModule query name source = .ok p → compileSources query s = .ok a →
        prepareArtifact a = .ok p' → p.text = query ∧ p'.text = query ∧
          ∀ input, p.decide input = p'.decide input ∧ p.evaluate input = p'.evaluate input ∧
            p.evaluateToText input = p'.evaluateToText input) ∧
      ∀ f, compileModule query name source = .error f →
        compileSources query s = .error f ∧ f.code = .compile := by
  have hsorted : Dictionary.Sorted [(name, source)] := List.pairwise_singleton ..
  have hartifact := compileSources_bind_prepareArtifact query
    (s := { modules := [(name, source)] }) hsorted rfl
  have heq : compileModule query name source
      = (compileSources query { modules := [(name, source)] } >>= prepareArtifact) :=
    hartifact.symm
  refine ⟨{ modules := [(name, source)] }, rfl, rfl, rfl, heq, ?_, ?_, ?_⟩
  · constructor
    · rintro ⟨p, hp⟩
      obtain ⟨a, ha, hp⟩ := bind_eq_ok.mp (heq.symm.trans hp)
      exact ⟨a, p, ha, hp⟩
    · rintro ⟨a, p, ha, hp⟩
      exact ⟨p, heq.trans (bind_eq_ok.mpr ⟨a, ha, hp⟩)⟩
  · intro p a p' hp ha hp'
    obtain rfl : p = p' :=
      Except.ok.inj (hp.symm.trans (heq.trans (bind_eq_ok.mpr ⟨a, ha, hp'⟩)))
    have htext := (prepare_eq_ok hp).1
    exact ⟨htext, htext, fun _ => ⟨rfl, rfl, rfl⟩⟩
  · intro f hf
    have hprepare : prepare query [(name, source)] [] = .error f := hf
    exact ⟨by rw [compileSources_eq, hprepare]; rfl, prepare_code hf⟩

end PolicyPack
