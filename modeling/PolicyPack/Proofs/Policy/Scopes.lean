import PolicyPack.Policy.Query
import PolicyPack.Proofs.Dictionary
import PolicyPack.Proofs.Outcome

/-!
# Scopes in an evaluation

The levels of a scope are dictionaries, and every step of an evaluation keeps them sorted: a
variable gets its value at the place of its name. So the bindings of an answer increase by name.
What a step gives is described apart from the progress it makes.
-/

namespace PolicyPack.Policy

/-! ### What steps give -/

section Gives

variable {α β σ : Type}

/-- Whatever the step gives meets a condition. -/
def Gives (P : α → Prop) (m : Run α) : Prop := ∀ s a t, m s = .ok (a, t) → P a

variable {P : α → Prop} {Q : β → Prop}

theorem gives_pure {a : α} (h : P a) : Gives P (pure a) := by
  intro s b t hb
  cases hb
  exact h

theorem gives_throw (f : Fault) : Gives P (throw f : Run α) := by
  intro s a t h
  cases h

theorem Gives.bind {m : Run β} {k : β → Run α} (hm : Gives Q m) (hk : ∀ b, Q b → Gives P (k b)) :
    Gives P (m >>= k) := by
  intro s a t h
  obtain ⟨⟨b, u⟩, hb, ha⟩ := bind_eq_ok.mp h
  exact hk b (hm s b u hb) u a t ha

theorem gives_bind {m : Run β} {k : β → Run α} (hk : ∀ b, Gives P (k b)) : Gives P (m >>= k) :=
  Gives.bind (Q := fun _ => True) (fun _ _ _ _ => trivial) fun b _ => hk b

theorem gives_guard {b : Prop} [Decidable b] {f : Fault} {k : PUnit → Run α}
    (h : Gives P (k ⟨⟩)) : Gives P (if b then throw f >>= k else k ⟨⟩) := by
  split
  · exact gives_bind fun _ => h
  · exact h

theorem gives_foldlM {step : β → σ → Run β} {l : List σ} {b : β}
    (hstep : ∀ x ∈ l, ∀ b, Q b → Gives Q (step b x)) (hb : Q b) : Gives Q (l.foldlM step b) := by
  induction l generalizing b with
  | nil => exact gives_pure hb
  | cons x l ih =>
    rw [List.foldlM_cons]
    refine (hstep x (List.mem_cons_self ..) b hb).bind fun c hc => ?_
    exact ih (fun y hy => hstep y (List.mem_cons_of_mem _ hy)) hc

theorem gives_filterMapM {f : σ → Run (Option β)} {l : List σ}
    (hf : ∀ x, Gives (fun y => ∀ b ∈ y, Q b) (f x)) :
    Gives (fun r => ∀ b ∈ r, Q b) (l.filterMapM f) := by
  induction l with
  | nil => exact gives_pure (by simp)
  | cons x l ih =>
    rw [List.filterMapM_cons]
    refine (hf x).bind fun y hy => ?_
    cases y with
    | none => exact ih
    | some b =>
      refine ih.bind fun r hr => gives_pure ?_
      rw [List.forall_mem_cons]
      exact ⟨hy b rfl, hr⟩

end Gives

/-! ### Sorted scopes -/

/-- All levels of the scope are sorted by name. -/
def Scope.Sorted (s : Scope) : Prop := ∀ level ∈ s, Dictionary.Sorted level

namespace Scope

theorem sorted_fresh : fresh.Sorted := by
  intro level h
  rw [List.mem_singleton.mp h]
  exact Dictionary.sorted_nil

variable {s : Scope}

theorem Sorted.inner (h : s.Sorted) : s.inner.Sorted := by
  intro level hl
  rcases List.mem_cons.mp hl with rfl | hl
  · exact Dictionary.sorted_nil
  · exact h level hl

theorem Sorted.set (h : s.Sorted) (x : String) (v : Option Value) : (s.set x v).Sorted := by
  cases s with
  | nil =>
    intro level hl
    rw [List.mem_singleton.mp hl]
    exact List.pairwise_singleton ..
  | cons level outer =>
    intro l hl
    rcases List.mem_cons.mp hl with rfl | hl
    · exact (h level (List.mem_cons_self ..)).insert x v
    · exact h l (List.mem_cons_of_mem _ hl)

theorem Sorted.bind (h : s.Sorted) (x : String) (v : Value) : (s.bind x v).Sorted := h.set x _

/-- The bindings of a sorted scope increase by name. -/
theorem Sorted.bindings (h : s.Sorted) : Dictionary.Sorted s.bindings := by
  cases s with
  | nil => exact Dictionary.sorted_nil
  | cons level outer => exact List.pairwise_map.mpr (h level (List.mem_cons_self ..))

end Scope

/-! ### Steps that keep scopes sorted -/

/-- With so much fuel, what gives back a scope gives back a sorted one for a sorted one. -/
structure KeepsScopes (fuel : Nat) : Prop where
  bindPattern : ∀ c last part p v (f : Fit), f.scope.Sorted →
    Gives (fun g => g.scope.Sorted) (bindPattern fuel c last part p v f)
  bindPatterns : ∀ c last part n ps (f : Fit), f.scope.Sorted →
    Gives (fun g => g.scope.Sorted) (bindPatterns fuel c last part n ps f)
  bindEntries : ∀ c last part n ps es (f : Fit), f.scope.Sorted →
    Gives (fun g => g.scope.Sorted) (bindEntries fuel c last part n ps es f)
  evalClaim : ∀ (c : Context) binds claim, c.scope.Sorted →
    Gives (fun r => r.2.Sorted) (evalClaim fuel c binds claim)
  evalDeclaration : ∀ (c : Context) l r, c.scope.Sorted →
    Gives (fun r => r.2.Sorted) (evalDeclaration fuel c l r)
  evalEquation : ∀ (c : Context) l r, c.scope.Sorted →
    Gives (fun r => r.2.Sorted) (evalEquation fuel c l r)
  evalEquations : ∀ (c : Context) pairs, c.scope.Sorted →
    Gives (fun r => r.2.Sorted) (evalEquations fuel c pairs)
  evalCondition : ∀ (c : Context) condition, c.scope.Sorted →
    Gives (fun o => o.scope.Sorted) (evalCondition fuel c condition)
  solve : ∀ (c : Context) conditions, c.scope.Sorted →
    Gives (fun l => ∀ s ∈ l, s.scope.Sorted) (solve fuel c conditions)
  solveChoices : ∀ (c : Context) loops condition rest, c.scope.Sorted →
    Gives (fun l => ∀ s ∈ l, s.scope.Sorted) (solveChoices fuel c loops condition rest)
  solveFirst : ∀ (c : Context) condition rest, c.scope.Sorted →
    Gives (fun l => ∀ s ∈ l, s.scope.Sorted) (solveFirst fuel c condition rest)
  solveElements : ∀ (c : Context) key value elements rest, c.scope.Sorted →
    Gives (fun l => ∀ s ∈ l, s.scope.Sorted) (solveElements fuel c key value elements rest)
  evalParts : ∀ (c : Context) l, c.scope.Sorted →
    Gives (fun cs => ∀ c' ∈ cs, c'.scope.Sorted) (evalParts fuel c l)

namespace KeepsScopes

variable {fuel : Nat}

theorem bindPattern_succ (h : KeepsScopes fuel) (c : Context) (last : Bool) (part : List Nat)
    (p : Term) (v : Value) (f : Fit) (hf : f.scope.Sorted) :
    Gives (fun g => g.scope.Sorted) (Policy.bindPattern (fuel + 1) c last part p v f) := by
  rw [Policy.bindPattern.eq_def]
  dsimp only
  split
  · exact gives_pure hf
  · exact gives_pure (hf.bind _ _)
  · split
    · exact h.bindPatterns _ _ _ _ _ _ hf
    · split
      · exact gives_throw _
      · exact gives_pure hf
  · exact h.bindEntries _ _ _ _ _ _ _ hf
  · exact gives_guard (gives_pure hf)
  · exact gives_guard (gives_pure hf)
  · exact gives_bind fun w => gives_guard (gives_pure hf)

theorem bindPatterns_succ (h : KeepsScopes fuel) (c : Context) (last : Bool) (part : List Nat)
    (n : Nat) (ps : List (Term × Value)) (f : Fit) (hf : f.scope.Sorted) :
    Gives (fun g => g.scope.Sorted) (Policy.bindPatterns (fuel + 1) c last part n ps f) := by
  cases ps with
  | nil =>
    rw [Policy.bindPatterns]
    exact gives_pure hf
  | cons p r =>
    rw [Policy.bindPatterns]
    refine (h.bindPattern _ _ _ _ _ _ hf).bind fun g hg => ?_
    split
    · exact h.bindPatterns _ _ _ _ _ _ hg
    · exact gives_pure hg

theorem bindEntries_succ (h : KeepsScopes fuel) (c : Context) (last : Bool) (part : List Nat)
    (n : Nat) (ps : List (Term × Term)) (es : List (Value × Value)) (f : Fit)
    (hf : f.scope.Sorted) :
    Gives (fun g => g.scope.Sorted) (Policy.bindEntries (fuel + 1) c last part n ps es f) := by
  cases ps with
  | nil =>
    rw [Policy.bindEntries]
    exact gives_pure hf
  | cons p r =>
    rw [Policy.bindEntries]
    refine gives_bind fun key => ?_
    split
    · exact gives_guard (gives_pure hf)
    · refine (h.bindPattern _ _ _ _ _ ⟨f.scope, part :: f.fitted, f.holds⟩
        hf).bind fun g hg => ?_
      split
      · exact h.bindEntries _ _ _ _ _ _ _ hg
      · exact gives_pure hg

theorem evalClaim_succ (h : KeepsScopes fuel) (c : Context) (binds : Bool) (claim : Claim)
    (hc : c.scope.Sorted) :
    Gives (fun r => r.2.Sorted) (Policy.evalClaim (fuel + 1) c binds claim) := by
  rw [Policy.evalClaim.eq_def]
  dsimp only
  split
  · exact h.evalDeclaration _ _ _ hc
  · exact h.evalEquation _ _ _ hc
  · split
    · refine gives_bind fun v => ?_
      split
      · exact gives_pure hc
      · split
        · exact gives_pure hc
        · split
          · exact gives_pure (hc.bind _ _)
          · exact gives_bind fun w => gives_pure hc
        · exact gives_bind fun w => gives_pure hc
    · exact gives_bind fun w => gives_pure hc

theorem evalDeclaration_succ (h : KeepsScopes fuel) (c : Context) (l r : Term)
    (hc : c.scope.Sorted) :
    Gives (fun r => r.2.Sorted) (Policy.evalDeclaration (fuel + 1) c l r) := by
  rw [Policy.evalDeclaration]
  refine gives_guard ?_
  dsimp only
  split
  -- each kind of pattern may refuse the value, and then all are fitted to it alike
  all_goals try refine gives_guard ?_
  all_goals
    refine gives_bind fun v => ?_
    split
    · exact gives_pure hc
    · exact (h.bindPattern _ _ _ _ _ _ hc).bind fun f hf => gives_pure hf

theorem evalEquation_succ (h : KeepsScopes fuel) (c : Context) (l r : Term)
    (hc : c.scope.Sorted) :
    Gives (fun r => r.2.Sorted) (Policy.evalEquation (fuel + 1) c l r) := by
  rw [Policy.evalEquation]
  refine gives_guard ?_
  dsimp only
  split
  · exact gives_guard (h.evalEquations _ _ hc)
  · refine gives_guard (gives_bind fun ks => gives_bind fun ks' => ?_)
    split
    · split
      · exact h.evalEquations _ _ hc
      · exact gives_pure hc
    · exact gives_pure hc
  · exact gives_bind fun v => gives_pure hc
  · exact gives_bind fun v => gives_pure hc
  · split
    · refine gives_bind fun w => ?_
      split
      · exact gives_pure (hc.bind _ _)
      · exact gives_pure hc
    · refine gives_bind fun w => ?_
      split
      · exact gives_pure (hc.bind _ _)
      · exact gives_pure hc
    · split
      · refine gives_bind fun w => ?_
        split
        · exact gives_pure hc
        · exact (h.bindPattern _ _ _ _ _ _ hc).bind fun g hg => gives_pure hg
      · refine gives_bind fun v => gives_bind fun w => ?_
        split
        · exact gives_pure hc
        · exact gives_pure hc

theorem evalEquations_succ (h : KeepsScopes fuel) (c : Context) (pairs : List (Term × Term))
    (hc : c.scope.Sorted) :
    Gives (fun r => r.2.Sorted) (Policy.evalEquations (fuel + 1) c pairs) := by
  cases pairs with
  | nil =>
    rw [Policy.evalEquations]
    exact gives_pure hc
  | cons p more =>
    rw [Policy.evalEquations]
    refine (h.evalEquation _ _ _ hc).bind fun r hr => ?_
    split
    split
    · exact h.evalEquations _ _ hr
    · exact gives_pure hr

theorem evalCondition_succ (h : KeepsScopes fuel) (c : Context) (condition : Condition)
    (hc : c.scope.Sorted) :
    Gives (fun o => o.scope.Sorted) (Policy.evalCondition (fuel + 1) c condition) := by
  cases condition with
  | holds claim =>
    rw [Policy.evalCondition]
    exact (h.evalClaim _ _ _ hc).bind fun r hr => gives_pure hr
  | fails claim =>
    rw [Policy.evalCondition]
    exact gives_bind fun choices => gives_bind fun held => gives_pure hc
  | declare names =>
    rw [Policy.evalCondition]
    refine Gives.bind (Q := Scope.Sorted) (gives_foldlM (fun x _ s hs => ?_) hc) fun s hs =>
      gives_pure hs
    split
    · exact gives_throw _
    · exact gives_pure (hs.set x none)
  | every key value coll body =>
    rw [Policy.evalCondition]
    refine gives_bind fun v => ?_
    split
    · exact gives_pure hc
    · dsimp only
      split
      · exact gives_bind fun holds => gives_pure hc
      · exact gives_pure hc
  | someIn key value coll =>
    rw [Policy.evalCondition]
    exact gives_pure hc

theorem solve_succ (h : KeepsScopes fuel) (c : Context) (conditions : List Condition)
    (hc : c.scope.Sorted) :
    Gives (fun l => ∀ s ∈ l, s.scope.Sorted) (Policy.solve (fuel + 1) c conditions) := by
  cases conditions with
  | nil =>
    rw [Policy.solve]
    refine gives_pure fun s hs => ?_
    rw [List.mem_singleton.mp hs]
    exact hc
  | cons condition rest =>
    rw [Policy.solve.eq_def]
    exact h.solveChoices _ _ _ _ hc

theorem solveChoices_succ (h : KeepsScopes fuel) (c : Context) (loops : List Selection)
    (condition : Condition) (rest : List Condition) (hc : c.scope.Sorted) :
    Gives (fun l => ∀ s ∈ l, s.scope.Sorted)
      (Policy.solveChoices (fuel + 1) c loops condition rest) := by
  cases loops with
  | nil =>
    rw [Policy.solveChoices]
    exact h.solveFirst _ _ _ hc
  | cons l more =>
    rw [Policy.solveChoices]
    refine (h.evalParts _ _ hc).bind fun cs hcs => ?_
    refine gives_foldlM (fun c' hc' found hfound => ?_) (by simp)
    split
    · exact gives_pure hfound
    · refine (h.solveChoices _ _ _ _ (hcs c' hc')).bind fun r hr => gives_pure ?_
      rw [List.forall_mem_append]
      exact ⟨hfound, hr⟩

theorem solveFirst_succ (h : KeepsScopes fuel) (c : Context) (condition : Condition)
    (rest : List Condition) (hc : c.scope.Sorted) :
    Gives (fun l => ∀ s ∈ l, s.scope.Sorted) (Policy.solveFirst (fuel + 1) c condition rest) := by
  rw [Policy.solveFirst.eq_def]
  dsimp only
  split
  · refine gives_bind fun v => ?_
    split
    · exact gives_pure (by simp)
    · split
      · exact h.solveElements _ _ _ _ _ hc
      · exact gives_bind fun _ => h.solveElements _ _ _ _ _ hc
  · refine (h.evalCondition _ _ hc).bind fun o ho => ?_
    split
    · refine (h.solve { c with scope := o.scope } rest ho).bind fun r hr => gives_pure ?_
      rw [List.forall_mem_map]
      exact hr
    · exact gives_pure (by simp)

theorem solveElements_succ (h : KeepsScopes fuel) (c : Context) (key : Option Term) (value : Term)
    (elements : List (Value × Value)) (rest : List Condition) (hc : c.scope.Sorted) :
    Gives (fun l => ∀ s ∈ l, s.scope.Sorted)
      (Policy.solveElements (fuel + 1) c key value elements rest) := by
  rw [Policy.solveElements]
  refine Gives.bind (Q := fun r => ∀ s ∈ r.1, s.scope.Sorted)
    (gives_foldlM (fun e _ found hfound => ?_) (by simp)) fun r hr => gives_pure ?_
  · refine (h.bindPatterns _ _ _ _ _ _ hc).bind fun f hf => ?_
    have hdone : ∀ more : List Solution, (∀ s ∈ more, s.scope.Sorted) →
        Gives (fun r => ∀ s ∈ r.1, s.scope.Sorted)
          (pure (found.1 ++ more, f.fitted) : Run (List Solution × List (List Nat))) := by
      intro more hmore
      refine gives_pure ?_
      rw [List.forall_mem_append]
      exact ⟨hfound, hmore⟩
    dsimp only
    split
    · exact (h.solve { c with scope := f.scope } rest hf).bind hdone
    · exact hdone [] (by simp)
  · rw [List.forall_mem_map]
    exact hr

theorem evalParts_succ (h : KeepsScopes fuel) (c : Context) (l : Selection)
    (hc : c.scope.Sorted) :
    Gives (fun cs => ∀ c' ∈ cs, c'.scope.Sorted) (Policy.evalParts (fuel + 1) c l) := by
  rw [Policy.evalParts]
  refine gives_bind fun v => ?_
  split
  · exact gives_pure (by simp)
  · split
    · refine gives_pure fun c' hc' => ?_
      obtain ⟨v, -, rfl⟩ := Option.map_eq_some_iff.mp (Option.mem_toList.mp hc')
      exact hc
    · refine gives_filterMapM fun e => ?_
      refine (h.bindPattern _ _ _ _ _ ⟨c.scope.inner, [], true⟩ hc.inner).bind fun f hf =>
        gives_pure ?_
      split
      · rintro c' ⟨⟩
        exact hf
      · simp

end KeepsScopes

/-- Steps keep scopes sorted, however much fuel they have. -/
theorem keepsScopes (fuel : Nat) : KeepsScopes fuel := by
  induction fuel with
  | zero => constructor <;> intros <;> exact gives_throw _
  | succ fuel ih =>
    exact {
      bindPattern := ih.bindPattern_succ
      bindPatterns := ih.bindPatterns_succ
      bindEntries := ih.bindEntries_succ
      evalClaim := ih.evalClaim_succ
      evalDeclaration := ih.evalDeclaration_succ
      evalEquation := ih.evalEquation_succ
      evalEquations := ih.evalEquations_succ
      evalCondition := ih.evalCondition_succ
      solve := ih.solve_succ
      solveChoices := ih.solveChoices_succ
      solveFirst := ih.solveFirst_succ
      solveElements := ih.solveElements_succ
      evalParts := ih.evalParts_succ }

/-! ### Answers -/

namespace Query

theorem gives_solutions (q : Query) (fuel : Nat) {c : Context} (hc : c.scope.Sorted)
    (order : List (Nat × Condition)) :
    Gives (fun l => ∀ a ∈ l, Dictionary.Sorted a.bindings) (q.solutions fuel c order) := by
  have hanswers : ∀ (positions : List Nat) (found : List Solution),
      (∀ s ∈ found, s.scope.Sorted) → ∀ a ∈ found.map fun s =>
        q.answer positions s.shown s.scope.bindings, Dictionary.Sorted a.bindings := by
    intro positions found hfound a ha
    obtain ⟨s, hs, rfl⟩ := List.mem_map.mp ha
    exact (hfound s hs).bindings
  unfold solutions
  split
  · exact gives_pure (by simp)
  · split
    · refine ((keepsScopes fuel).evalCondition c _ hc).bind fun o ho => ?_
      split
      · refine ((keepsScopes fuel).solve { c with scope := o.scope } _ ho).bind fun found hfound =>
          gives_pure ?_
        refine hanswers _ _ ?_
        rw [List.forall_mem_map]
        exact hfound
      · refine gives_pure fun a ha => ?_
        rw [List.mem_singleton.mp ha]
        exact Dictionary.sorted_nil
    · exact ((keepsScopes fuel).solve c _ hc).bind fun found hfound =>
        gives_pure (hanswers _ _ hfound)

/-- The bindings of every answer increase by name. -/
theorem sorted_of_answers {q : Query} {p : Program} {input : Option Value} {l : List Answer}
    (h : q.answers p input = .ok l) : ∀ a ∈ l, Dictionary.Sorted a.bindings := by
  have hsolutions := q.gives_solutions (q.fuel p) (c := context p input) Scope.sorted_fresh
    (q.ordered (context p input))
  have hsteps : Gives (fun l => ∀ a ∈ l, Dictionary.Sorted a.bindings)
      (show Run (List Answer) from do
        if q.asksForAll then completeAll (q.fuel p) (context p input)
        q.solutions (q.fuel p) (context p input) (q.ordered (context p input))) := by
    dsimp only
    split
    · exact gives_bind fun _ => hsolutions
    · exact hsolutions
  obtain ⟨⟨l', s⟩, hrun, h⟩ := bind_eq_ok.mp h
  cases h
  exact hsteps _ _ _ hrun

end Query

end PolicyPack.Policy
