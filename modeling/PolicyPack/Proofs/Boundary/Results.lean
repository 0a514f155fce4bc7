import PolicyPack.Proofs.Boundary.Refinement
import PolicyPack.Proofs.Evaluation.Results

/-!
# Results behind the boundary

What a C caller reads of an answer are the bytes before the first zero byte. The text of results
holds no null character, whatever their keys, texts and bindings hold, so the caller reads all of
it, and it is read back as the results.
-/

namespace PolicyPack

/-! ### Buffers of texts -/

theorem beforeZero_push {bytes : ByteArray} (h : 0 ∉ bytes.data.toList) :
    beforeZero (bytes.push 0) = bytes :=
  (Boundary.isCut_beforeZero _).unique (Boundary.isCut_of_append h Array.toList_push)

/-- A text without null characters is read to its end. -/
theorem Buffer.textBytes_ofText {s : String} (h : '\x00' ∉ s.toList) :
    (Buffer.ofText s).textBytes = s.toUTF8 := beforeZero_push (Text.zero_not_mem_toUTF8 h)

theorem textBytes_renderResults (entries : List ResultEntry) :
    (Buffer.ofText (renderResults entries)).textBytes = (renderResults entries).toUTF8 := by
  refine Buffer.textBytes_ofText fun hnull => ?_
  have hprintable := printable_renderResults entries _ hnull
  exact absurd hprintable (by decide)

namespace Boundary

/-! ### Answers received -/

/-- The text that a caller receives for results is the whole text of the results: the first zero
byte is the one after it. It is read back as the results; a result without bindings is written
without them and read with none. Values may nest 123 levels, and their numbers have to read back. -/
theorem evaluation_received {r : Registry} {h : Handle} {q : PreparedQuery} {input : TextArgument}
    {text : String} {entries : List ResultEntry} (hquery : r.lookup h = .ok q)
    (hinput : textOf? input = some text) (hentries : q.evaluate text = .ok entries)
    (hvalues : ∀ e ∈ entries, ∀ v ∈ e.values, v.nesting ≤ 123 ∧ v.NumbersReadBack) :
    ∃ buffer received, callEvaluate (some r) h input = { value := some buffer, error := none } ∧
      buffer.bytes = buffer.textBytes.push 0 ∧
      String.fromUTF8? buffer.textBytes = some received ∧
      q.evaluateToText text = .ok received ∧
      (∀ e ∈ entries, e.bindings = [] → e.render =
        Json.objectOf [("expressions", Json.arrayOf (e.expressions.map ExpressionValue.render))]) ∧
      resultsOfText received = .ok entries := by
  have htext : q.evaluateToText text = .ok (renderResults entries) := by
    rw [PreparedQuery.evaluateToText, hentries, ok_bind, pure_eq_ok]
  have hbytes := textBytes_renderResults entries
  refine ⟨Buffer.ofText (renderResults entries), renderResults entries, ?_, ?_, ?_, htext, ?_, ?_⟩
  · have hcall : evaluateWith (some r) h input PreparedQuery.evaluateToText
        = outcome (r.lookup h >>= fun q => q.evaluateToText text) :=
      @evaluateWith_of_text Unit (fun _ => r) String () h input text hinput
        PreparedQuery.evaluateToText
    rw [hquery, ok_bind, htext] at hcall
    rw [callEvaluate, hcall]
    rfl
  · rw [hbytes]
    rfl
  · rw [hbytes]
    exact Text.fromUTF8?_eq_some.mpr rfl
  · intro e _ hnone
    rw [ResultEntry.render, hnone]
    rfl
  · exact resultsOfText_renderResults (PreparedQuery.evaluate_wellFormed hentries) hvalues

/-- The prepared query `x := ["\u0000"]; [7]`, of an empty program. -/
def nullCharacterQuery : PreparedQuery where
  text := "x := [\"\\u0000\"]; [7]"
  query := {
    items := [
      ⟨.holds (.equation true (.var "x") (.literal (.array [.string "\x00"]))),
        "x := [\"\\u0000\"]"⟩,
      ⟨.holds (.term (.literal (.array [.number ⟨7, 0, by decide⟩]))), "[7]"⟩]
    extent := 20 }
  program := {}

/-- The results of the query. -/
def nullCharacterResults : List ResultEntry :=
  [⟨[⟨.bool true, "x := [\"\\u0000\"]"⟩, ⟨.array [.number (.int 7)], "[7]"⟩],
    [("x", .array [.string "\x00"])]⟩]

theorem evaluation_received_nullCharacter :
    ∃ buffer received,
      callEvaluate (some ⟨1, [(1, nullCharacterQuery)]⟩) ⟨1⟩ (some "\x7b\x7d".toUTF8)
        = { value := some buffer, error := none } ∧
      buffer.bytes = buffer.textBytes.push 0 ∧
      String.fromUTF8? buffer.textBytes = some received ∧
      resultsOfText received = .ok nullCharacterResults := by
  have hseven : (Json.Number.int 7).ReadsBack :=
    Json.Number.readsBack_int (by simp [Json.Number.InRange])
  have hvalues : ∀ e ∈ nullCharacterResults, ∀ v ∈ e.values,
      v.nesting ≤ 123 ∧ v.NumbersReadBack := by
    simp only [nullCharacterResults, List.forall_mem_singleton, ResultEntry.forall_mem_values,
      List.forall_mem_cons]
    simp [Json.Value.nesting, Json.Value.itemsNesting, hseven]
  have hinput : textOf? (some "\x7b\x7d".toUTF8) = some "\x7b\x7d" :=
    textOf?_eq_some.mpr ⟨_, rfl, isCut_self (Text.zero_not_mem_toUTF8 (by decide))⟩
  have hentries : nullCharacterQuery.evaluate "\x7b\x7d" = .ok nullCharacterResults := rfl
  have hquery : Registry.lookup ⟨1, [(1, nullCharacterQuery)]⟩ ⟨1⟩ = .ok nullCharacterQuery := rfl
  obtain ⟨buffer, received, hcall, hbytes, htext, -, -, hread⟩ :=
    evaluation_received hquery hinput hentries hvalues
  exact ⟨buffer, received, hcall, hbytes, htext, hread⟩

end Boundary

end PolicyPack
