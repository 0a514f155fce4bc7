import PolicyPack.Proofs.Boundary.Calls

/-!
# Calls refine the library

Whatever is called in whatever order, from C nothing can be done but what the library does. A call
whose arguments are all there returns what the library returns on their texts. Any other call
returns why it is refused, and no registry changes.
-/

namespace PolicyPack.Boundary

variable {ι : Type} {regs : ι → Registry}

/-! ### Outcomes -/

theorem outcome_bind {α β : Type} (x : Except Failure α) (next : α → Except Failure β) :
    outcome (x >>= next) = outcome x >>= fun a => outcome (next a) := by
  cases x <;> rfl

theorem buildAnswer_of (x : Except Failure Artifact) :
    Answer.build (BuildAnswer.of (outcome x)) = buildAnswer x := by
  cases x <;> rfl

theorem handleAnswer_of (x : Except Failure Handle) :
    Answer.handle (HandleAnswer.of (outcome x)) = operationAnswer (.issued x) := by
  cases x <;> rfl

theorem boolAnswer_of (x : Except Failure Bool) :
    Answer.bool (BoolAnswer.of (outcome x)) = operationAnswer (.decision x) := by
  cases x <;> rfl

theorem textAnswer_of (x : Except Failure String) :
    Answer.text (TextAnswer.of (outcome x)) = operationAnswer (.text x) := by
  cases x <;> rfl

/-- An evaluation on a registry that is there looks up its handle, then decodes its input, and then
evaluates. -/
theorem evaluateWith_some {α : Type} (r : Registry) (h : Handle) (input : TextArgument)
    (form : PreparedQuery → String → Except Failure α) :
    evaluateWith (some r) h input form = outcome (r.lookup h) >>= fun q =>
      decodeText "input_json" input >>= fun s => outcome (form q s) := rfl

theorem evaluateWith_of_text {α : Type} {i : ι} {h : Handle} {input : TextArgument} {s : String}
    (hs : textOf? input = some s) (form : PreparedQuery → String → Except Failure α) :
    evaluateWith (some (regs i)) h input form
      = outcome ((regs i).lookup h >>= fun q => form q s) := by
  have hd : Decodes regs [.text "input_json" input] _ _ := decodes_text "input_json" input
  rcases hd.ok_or_error with ⟨x, hok, hvalue⟩ | ⟨f, -, hvalue, -⟩
  · obtain rfl : x = s := Option.some_inj.mp (hvalue.symm.trans hs)
    simp only [evaluateWith_some, hok, ok_bind, outcome_bind]
  · rw [hs] at hvalue
    cases hvalue

/-- Where the handle is unknown, nothing is said of an input that is no text. -/
theorem evaluateWith_of_none {α : Type} (regs : ι → Registry) (i : ι) (h : Handle)
    {input : TextArgument} (hnone : textOf? input = none)
    (form : PreparedQuery → String → Except Failure α) :
    ∃ f, evaluateWith (some (regs i)) h input form = .error f ∧
      firstFault? regs [.registry (some i), .handle (some i) h, .text "input_json" input]
        = some f.message := by
  have hd : Decodes regs [.text "input_json" input] _ _ := decodes_text "input_json" input
  rcases hd.ok_or_error with ⟨x, -, hvalue⟩ | ⟨f, herror, -, hfault⟩
  · rw [hnone] at hvalue
    cases hvalue
  · cases hl : (regs i).lookup h with
    | error g =>
      have hunknown := Registry.lookup_eq_error (r := regs i) (h := h) (by simp [hl])
      have hcheck : (Check.handle (some i) h).fault? regs = some "could not find rego query" := by
        rw [Check.fault?, hl]
      refine ⟨.failed (.notFound h), by rw [evaluateWith_some, hunknown]; rfl, ?_⟩
      exact (firstFault?_of_none rfl _).trans (firstFault?_of_some hcheck _)
    | ok q =>
      have hcheck : (Check.handle (some i) h).fault? regs = none := by rw [Check.fault?, hl]
      refine ⟨f, by rw [evaluateWith_some, hl, herror]; rfl, ?_⟩
      exact (firstFault?_of_none rfl _).trans ((firstFault?_of_none hcheck _).trans hfault)

variable [DecidableEq ι]

/-! ### One call -/

/-- A call does what its request asks for, or is refused with the message of its first failing
check. -/
inductive Refines (regs : ι → Registry) (call : Call ι) : Prop
  | request {req : Request ι} (hrequest : call.request? = some req)
    (hstep : step regs call = (req.registries regs, req.answer regs)) : Refines regs call
  | refusal {message : String} (hrequest : call.request? = none)
    (hfault : firstFault? regs call.checks = some message)
    (hstep : step regs call = (regs, call.refusal message)) : Refines regs call

theorem store_self (i : ι) : store regs (some i) (some (regs i)) = regs :=
  Function.update_eq_self i regs

/-- The arguments of a build, decoded in order. -/
def buildArguments (query : TextArgument) (data bundles ignore : ListArgument) :
    Except CallFault (String × List String × List String × List String) := do
  return (← decodeText "query" query, ← decodeList "data" data, ← decodeList "bundles" bundles,
    ← decodeList "ignore" ignore)

/-- The texts of the arguments of a build. -/
def buildTexts? (query : TextArgument) (data bundles ignore : ListArgument) :
    Option (String × List String × List String × List String) := do
  return (← textOf? query, ← textsOf? data, ← textsOf? bundles, ← textsOf? ignore)

theorem refines_build (t : FileTree) (query : TextArgument) (data bundles ignore : ListArgument) :
    Refines regs (.build t query data bundles ignore) := by
  have hd : Decodes regs (Call.build t query data bundles ignore).checks
      (buildArguments query data bundles ignore) (buildTexts? query data bundles ignore) :=
    (decodes_text "query" query).bind fun q => (decodes_list "data" data).bind fun d =>
      (decodes_list "bundles" bundles).bind fun b => (decodes_list "ignore" ignore).map fun g =>
        (q, d, b, g)
  have hcall : callBuild t query data bundles ignore = BuildAnswer.of (
      buildArguments query data bundles ignore >>= fun x =>
        outcome (PolicyPack.build t x.1 (x.2.1.map Path.mk) (x.2.2.1.map Path.mk) x.2.2.2)) := by
    simp only [buildArguments, bind_assoc, pure_bind]
    rfl
  have hrequest : (Call.build t query data bundles ignore : Call ι).request?
      = buildTexts? query data bundles ignore >>= fun x =>
        pure (.build t x.1 x.2.1 x.2.2.1 x.2.2.2) := by
    simp only [buildTexts?, bind_assoc, pure_bind]
    rfl
  rcases hd.ok_or_error with ⟨x, hok, hvalue⟩ | ⟨f, herror, hvalue, hfault⟩
  · rw [hok, ok_bind] at hcall
    rw [hvalue] at hrequest
    refine .request hrequest ?_
    rw [step, hcall, buildAnswer_of]
    rfl
  · rw [herror, error_bind] at hcall
    rw [hvalue] at hrequest
    refine .refusal hrequest hfault ?_
    rw [step, hcall]
    rfl

theorem refines_buildManifest (t : FileTree) (path : TextArgument) :
    Refines regs (.buildManifest t path) := by
  have hd : Decodes regs (Call.buildManifest t path).checks _ _ := decodes_text "path" path
  rcases hd.ok_or_error with ⟨p, hok, hvalue⟩ | ⟨f, herror, hvalue, hfault⟩
  · have hrequest : (Call.buildManifest t path : Call ι).request? = some (.buildManifest t p) := by
      rw [Call.request?, hvalue]
      rfl
    refine .request hrequest ?_
    rw [step, callBuildManifest, hok, ok_bind, Request.answer, ← buildAnswer_of, outcome_bind]
    rfl
  · refine .refusal (by rw [Call.request?, hvalue]; rfl) hfault ?_
    rw [step, callBuildManifest, herror]
    rfl

/-! ### Registrations -/

/-- A registration on a registry that is there decodes its arguments and then registers. -/
theorem register_some {α : Type} (r : Registry) (decode : Except CallFault α)
    (operation : Registry → α → Registry × Except Failure Handle) :
    register (some r) decode operation = match decode with
      | .error f => (some r, HandleAnswer.of (.error f))
      | .ok x => (some (operation r x).1, HandleAnswer.of (outcome (operation r x).2)) := rfl

/-- The arguments of a creation, decoded in order. -/
def createArguments (query name source : TextArgument) :
    Except CallFault (String × String × String) := do
  return (← decodeText "query" query, ← decodeText "module_name" name,
    ← decodeText "module_source" source)

/-- The texts of the arguments of a creation. -/
def createTexts? (query name source : TextArgument) : Option (String × String × String) := do
  return (← textOf? query, ← textOf? name, ← textOf? source)

theorem refines_create (i : Option ι) (query name source : TextArgument) :
    Refines regs (.create i query name source) := by
  cases i with
  | none => exact .refusal rfl rfl rfl
  | some i =>
    have hd : Decodes regs
        [.text "query" query, .text "module_name" name, .text "module_source" source]
        (createArguments query name source) (createTexts? query name source) :=
      (decodes_text "query" query).bind fun q => (decodes_text "module_name" name).bind fun n =>
        (decodes_text "module_source" source).map fun s => (q, n, s)
    have hcall : callCreate (some (regs i)) query name source = register (some (regs i))
      (createArguments query name source) fun r a => r.create a.1 a.2.1 a.2.2 := rfl
    have hrequest : (Call.create (some i) query name source).request?
        = createTexts? query name source >>= fun x =>
          pure (.operation i (.create x.1 x.2.1 x.2.2)) := by
      simp only [createTexts?, bind_assoc, pure_bind]
      rfl
    rw [register_some] at hcall
    rcases hd.ok_or_error with ⟨x, hok, hvalue⟩ | ⟨f, herror, hvalue, hfault⟩
    · rw [hok] at hcall
      rw [hvalue] at hrequest
      refine .request hrequest ?_
      rw [step, Option.map_some, hcall]
      exact congrArg (Prod.mk _) (handleAnswer_of _)
    · rw [herror] at hcall
      rw [hvalue] at hrequest
      refine .refusal hrequest hfault ?_
      rw [step, Option.map_some, hcall, store_self]
      rfl

theorem refines_createFromArtifact (i : Option ι) (bytes : Option ByteArray) :
    Refines regs (.createFromArtifact i bytes) := by
  cases i with
  | none => exact .refusal rfl rfl rfl
  | some i =>
    cases bytes with
    | none =>
      refine .refusal rfl rfl ?_
      rw [step, Option.map_some, callCreateFromArtifact, register_some]
      exact congrArg (·, _) (store_self i)
    | some bytes =>
      have hrequest : (Call.createFromArtifact (some i) (some bytes)).request?
          = some (.operation i (.createFromArtifact ⟨bytes⟩)) := rfl
      refine .request hrequest ?_
      rw [step, Option.map_some, callCreateFromArtifact, register_some]
      exact congrArg (Prod.mk _) (handleAnswer_of _)

theorem refines_dispose (i : Option ι) (h : Handle) : Refines regs (.dispose i h) := by
  cases i with
  | none => exact .refusal rfl rfl rfl
  | some i =>
    have hrequest : (Call.dispose (some i) h).request? = some (.operation i (.dispose h)) := rfl
    exact .request hrequest rfl

/-! ### Evaluations -/

/-- An evaluation in any form, on a registry that is there. -/
theorem refines_evaluation {α : Type} {i : ι} {h : Handle} {input : TextArgument} {call : Call ι}
    {form : PreparedQuery → String → Except Failure α} {operation : String → Registry.Operation}
    (give : Except CallFault α → Answer)
    (hrequest : call.request? = (textOf? input).map fun s => .operation i (operation s))
    (hchecks : call.checks = [.registry (some i), .handle (some i) h, .text "input_json" input])
    (hstep : step regs call = (regs, give (evaluateWith (some (regs i)) h input form)))
    (hself : ∀ s, ((regs i).step (operation s)).1 = regs i)
    (hgive : ∀ s, give (outcome ((regs i).lookup h >>= fun q => form q s))
      = operationAnswer ((regs i).step (operation s)).2)
    (hrefusal : ∀ f : CallFault, give (.error f) = call.refusal f.message) :
    Refines regs call := by
  cases hs : textOf? input with
  | some s =>
    rw [hs] at hrequest
    refine .request hrequest ?_
    rw [hstep, evaluateWith_of_text hs, hgive, Request.registries, hself, Function.update_eq_self]
    rfl
  | none =>
    obtain ⟨f, herror, hfault⟩ := evaluateWith_of_none regs i h hs form
    rw [hs] at hrequest
    rw [← hchecks] at hfault
    refine .refusal hrequest hfault ?_
    rw [hstep, herror, hrefusal]

theorem refines_decide (i : Option ι) (h : Handle) (input : TextArgument) :
    Refines regs (.decide i h input) := by
  cases i with
  | none => exact .refusal rfl rfl rfl
  | some i =>
    have hrequest : (Call.decide (some i) h input).request?
        = (textOf? input).map fun s => .operation i (.decide h s) := by
      rw [Call.request?]
      cases textOf? input <;> rfl
    exact refines_evaluation (fun x => .bool (BoolAnswer.of x)) hrequest rfl rfl (fun _ => rfl)
      (fun _ => boolAnswer_of _) fun _ => rfl

theorem refines_evaluate (i : Option ι) (h : Handle) (input : TextArgument) :
    Refines regs (.evaluate i h input) := by
  cases i with
  | none => exact .refusal rfl rfl rfl
  | some i =>
    have hrequest : (Call.evaluate (some i) h input).request?
        = (textOf? input).map fun s => .operation i (.evaluateToText h s) := by
      rw [Call.request?]
      cases textOf? input <;> rfl
    exact refines_evaluation (fun x => .text (TextAnswer.of x)) hrequest rfl rfl (fun _ => rfl)
      (fun _ => textAnswer_of _) fun _ => rfl

theorem refines (regs : ι → Registry) (call : Call ι) : Refines regs call := by
  cases call with
  | build t query data bundles ignore => exact refines_build t query data bundles ignore
  | buildManifest t path => exact refines_buildManifest t path
  | create i query name source => exact refines_create i query name source
  | createFromArtifact i bytes => exact refines_createFromArtifact i bytes
  | dispose i h => exact refines_dispose i h
  | decide i h input => exact refines_decide i h input
  | evaluate i h input => exact refines_evaluate i h input

/-! ### Runs -/

theorem operationsOn_append (i : ι) (calls more : List (Call ι)) :
    operationsOn i (calls ++ more) = operationsOn i calls ++ operationsOn i more :=
  List.filterMap_append

theorem operationsOn_request {call : Call ι} {req : Request ι} (h : call.request? = some req)
    (i : ι) : operationsOn i [call] = (req.operationOn? i).toList := by
  rw [operationsOn, List.filterMap_cons, h, Option.bind_some]
  cases req.operationOn? i <;> rfl

theorem operationsOn_refusal {call : Call ι} (h : call.request? = none) (i : ι) :
    operationsOn i [call] = [] := by
  rw [operationsOn, List.filterMap_cons, h]
  rfl

/-- A request runs on each registry the operation that it has for it, if it has one. -/
theorem registries_apply (regs : ι → Registry) (req : Request ι) (i : ι) :
    req.registries regs i = (regs i).after (req.operationOn? i).toList := by
  cases req with
  | build | buildManifest => rfl
  | operation j op =>
    by_cases hj : j = i
    · subst hj
      rw [Request.operationOn?, if_pos rfl]
      exact Function.update_self ..
    · rw [Request.operationOn?, if_neg hj]
      exact Function.update_of_ne (Ne.symm hj) ..

theorem step_apply (regs : ι → Registry) (call : Call ι) (i : ι) :
    (step regs call).1 i = (regs i).after (operationsOn i [call]) := by
  cases refines regs call with
  | request hrequest hstep =>
    rw [hstep, operationsOn_request hrequest]
    exact registries_apply ..
  | refusal hrequest _ hstep =>
    rw [hstep, operationsOn_refusal hrequest]
    rfl

theorem after_apply (regs : ι → Registry) (calls : List (Call ι)) (i : ι) :
    after regs calls i = (regs i).after (operationsOn i calls) := by
  induction calls generalizing regs with
  | nil => rfl
  | cons call calls ih =>
    rw [← List.singleton_append, operationsOn_append, Registry.after_append, ← step_apply]
    exact ih (step regs call).1

/-! ### Every run -/

/-- After any run of calls on new registries:

* each registry is as the operations that the run asked of it left it;
* a call with a request does what the library does on it, and returns what the library returns;
* any other call leaves all registries as they are and returns the message of the first check that
  fails;
* as long as no registry has issued as many handles as there are words, what is returned has either
  a payload or an error, and a decision with an error is negative. -/
theorem calls_refine (calls : List (Call ι)) (call : Call ι) :
    (∀ i, after newRegistries calls i = Registry.after {} (operationsOn i calls)) ∧
    (∀ req, call.request? = some req →
      step (after newRegistries calls) call
        = (req.registries (after newRegistries calls), req.answer (after newRegistries calls))) ∧
    (call.request? = none → ∃ message,
      firstFault? (after newRegistries calls) call.checks = some message ∧
        step (after newRegistries calls) call = (after newRegistries calls, call.refusal message)) ∧
    ((∀ i, (Registry.registered (operationsOn i (calls ++ [call]))).length < Handle.words) →
      (step (after newRegistries calls) call).2.Exclusive) := by
  have hregs := after_apply newRegistries calls
  have hcall := refines (after newRegistries calls) call
  refine ⟨hregs, fun req hreq => ?_, fun hnone => ?_, fun hroom => ?_⟩
  · cases hcall with
    | request hrequest hstep =>
      obtain rfl := Option.some_inj.mp (hreq.symm.trans hrequest)
      exact hstep
    | refusal hrequest => exact absurd (hreq.symm.trans hrequest) nofun
  · cases hcall with
    | request hrequest => exact absurd (hnone.symm.trans hrequest) nofun
    | refusal _ hfault hstep => exact ⟨_, hfault, hstep⟩
  · cases hcall with
    | refusal _ _ hstep =>
      rw [hstep]
      exact exclusive_refusal call _
    | @request req hrequest hstep =>
      rw [hstep]
      cases req with
      | build | buildManifest => exact exclusive_buildAnswer _
      | operation i op =>
        have hop : operationsOn i [call] = [op] := by
          rw [operationsOn_request hrequest, Request.operationOn?, if_pos rfl]
          rfl
        have hroom := hroom i
        rw [operationsOn_append, hop] at hroom
        refine exclusive_operationAnswer fun k hk => Registry.handle_ne_zero hroom ?_
        rw [← hk, hregs]
        rfl

/-- The bytes of a text, a zero byte, and what happens to stand behind it. -/
def terminated (s : String) (rest : ByteArray) : TextArgument := some (s.toUTF8.push 0 ++ rest)

/-- What stands behind the zero byte is not read. -/
theorem textOf?_terminated {s : String} (h : '\x00' ∉ s.toList) (rest : ByteArray) :
    textOf? (terminated s rest) = some s := by
  have hbytes : (s.toUTF8.push 0 ++ rest).data.toList
      = s.toUTF8.data.toList ++ 0 :: rest.data.toList := by
    simp
  exact textOf?_eq_some.mpr ⟨_, rfl, isCut_of_append (Text.zero_not_mem_toUTF8 h) hbytes⟩

/-- A creation whose arguments go on behind their texts, with bytes that are no text. -/
def longCreation : Call Bool :=
  .create (some true) (terminated "data.m.a" ⟨#[0xff]⟩) (terminated "m.rego" ⟨#[0xff, 0]⟩)
    (terminated "package m\na := input" "broken".toUTF8)

/-- A run on two registries: the creation, one without a query, and disposals of handles that were
never issued, one of them on no registry. -/
def mixedRun : List (Call Bool) :=
  [longCreation, .create (some false) none none none, .dispose none ⟨1⟩, .dispose (some true) ⟨2⟩]

/-- An evaluation whose input goes on behind its text. -/
def longEvaluation : Call Bool := .evaluate (some true) ⟨1⟩ (terminated "[true]" ⟨#[0xff]⟩)

/-- An evaluation with an unknown handle and an input that is no text. -/
def strayCall : Call Bool := .evaluate (some false) ⟨1⟩ (some ⟨#[0xff]⟩)

theorem request?_longCreation : longCreation.request?
    = some (.operation true (.create "data.m.a" "m.rego" "package m\na := input")) := by
  rw [longCreation, Call.request?, textOf?_terminated (by decide), textOf?_terminated (by decide),
    textOf?_terminated (by decide)]
  rfl

theorem operationsOn_mixedRun : operationsOn true mixedRun
    = [.create "data.m.a" "m.rego" "package m\na := input", .dispose ⟨2⟩] := by
  rw [mixedRun, operationsOn, List.filterMap_cons, request?_longCreation]
  rfl

/-- The calls of the run are answered as the library answers on the texts before the zero bytes: the
creation with the first handle, the evaluation with what the module says of the input. A stray call
is refused. -/
theorem calls_refine_terminated :
    (step newRegistries longCreation).2 = .handle ⟨1, none⟩ ∧
    (step (after newRegistries mixedRun) longEvaluation).2 = .text ⟨some ⟨
      "[\x7b\"expressions\":[\x7b\"value\":[true],\"text\":\"data.m.a\"\x7d]\x7d]".toUTF8.push 0⟩,
      none⟩ ∧
    (step (after newRegistries mixedRun) strayCall).2
      = .text ⟨none, messageBuffer "could not find rego query"⟩ ∧
    (step (after newRegistries mixedRun) longEvaluation).2.Exclusive := by
  have hcreated : (Registry.create {} "data.m.a" "m.rego" "package m\na := input").2 = .ok ⟨1⟩ :=
    eq_ok_of_toOption (by decide +kernel)
  have hvalue : (((Registry.after {} [.create "data.m.a" "m.rego" "package m\na := input",
      .dispose ⟨2⟩]).evaluateToText ⟨1⟩ "[true]")) = .ok
      "[\x7b\"expressions\":[\x7b\"value\":[true],\"text\":\"data.m.a\"\x7d]\x7d]" :=
    eq_ok_of_toOption (by decide +kernel)
  have hrequest : longEvaluation.request?
      = some (.operation true (.evaluateToText ⟨1⟩ "[true]")) := by
    rw [longEvaluation, Call.request?, textOf?_terminated (by decide)]
    rfl
  obtain ⟨-, hcreation, -, -⟩ := calls_refine [] longCreation
  obtain ⟨hregs, hevaluation, -, hexclusive⟩ := calls_refine mixedRun longEvaluation
  obtain ⟨-, -, hrefused, -⟩ := calls_refine mixedRun strayCall
  refine ⟨?_, ?_, ?_, hexclusive fun i => ?_⟩
  · have hstep := hcreation _ request?_longCreation
    rw [after, List.foldl_nil] at hstep
    have hissued (r : Registry) (query name source : String) :
        (r.step (.create query name source)).2 = .issued (r.create query name source).2 := rfl
    rw [hstep, Request.answer, hissued, newRegistries, hcreated]
    rfl
  · have htext (r : Registry) (h : Handle) (input : String) :
        (r.step (.evaluateToText h input)).2 = .text (r.evaluateToText h input) := rfl
    rw [hevaluation _ hrequest, Request.answer, hregs true, operationsOn_mixedRun, htext, hvalue]
    rfl
  · have hlookup : (after newRegistries mixedRun false).lookup ⟨1⟩ = .error (.notFound ⟨1⟩) := by
      rw [hregs, mixedRun, operationsOn, List.filterMap_cons, request?_longCreation]
      rfl
    have hcheck : (Check.handle (some false) ⟨1⟩).fault? (after newRegistries mixedRun)
        = some "could not find rego query" := by
      rw [Check.fault?, hlookup]
    have hfirst : firstFault? (after newRegistries mixedRun) strayCall.checks
        = some "could not find rego query" :=
      (firstFault?_of_none rfl _).trans (firstFault?_of_some hcheck _)
    have htext : textOf? (some ⟨#[0xff]⟩) = none := by decide +kernel
    have hnone : strayCall.request? = none := by
      rw [strayCall, Call.request?, htext]
      rfl
    obtain ⟨message, hfault, hstep⟩ := hrefused hnone
    obtain rfl := Option.some_inj.mp (hfault.symm.trans hfirst)
    rw [hstep]
    rfl
  · have hlength : (operationsOn i (mixedRun ++ [longEvaluation])).length ≤ 5 :=
      List.length_filterMap_le ..
    exact Nat.lt_of_le_of_lt (Nat.le_trans (List.length_filterMap_le ..) hlength) (by decide)

end PolicyPack.Boundary
