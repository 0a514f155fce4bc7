import PolicyPack.Compile
import PolicyPack.Proofs.Json.RoundTrip
import PolicyPack.Proofs.Sources.SourceSet

/-!
# Artifacts read back

Reading an artifact gives what was written into it: the query, the modules in their order, and the
data, as long as the data leave two levels of nesting for the record around them and their numbers
read back. A query is then prepared from the artifact as it was from the sources.
-/

namespace PolicyPack

open Json

namespace Artifact

theorem symbolsOfBytes_toUTF8 (s : String) : symbolsOfBytes s.toUTF8 = symbolsOfText s := by
  have h : String.fromUTF8? s.toUTF8 = some s := dif_pos s.isValidUTF8
  rw [symbolsOfBytes, h]

/-! ### Reading what was written -/

theorem reads_module (levels : Nat) (m : Module) :
    Reads (Module.record.read (levels + 1)) m.render.toList (.ok m) := by
  have hpath := Record.reads_field Module.record.fields[0] levels {} (reads_text m.path)
    (fun x => ⟨some x, none⟩) fun _ => rfl
  have hsource := Record.reads_field Module.record.fields[1] levels ⟨some m.path, none⟩
    (reads_text m.source) (fun x => ⟨some m.path, some x⟩) fun _ => rfl
  have hfills : Module.record.Fills levels Module.record.blank
      [("path", (quote m.path).toList), ("source", (quote m.source).toList)]
      (.ok ⟨some m.path, some m.source⟩) :=
    .field _ rfl rfl hpath (.field _ rfl rfl hsource (.done _))
  exact Record.reads_object (l := [("path", quote m.path), ("source", quote m.source)]) hfills

theorem reads_modules (levels : Nat) (l : List Module) :
    Reads (listOf Module.record.read (levels + 2)) (arrayOf (l.map Module.render)).toList (.ok l) := by
  have h : Reads (listOf Module.record.read (levels + 2)) (arrayOf (l.map Module.render)).toList
      (l.mapM Except.ok) :=
    reads_listOf (fun _ _ => beginsValue_objectOf _) fun m _ => reads_module levels m
  rwa [mapM_ok] at h

/-- What an artifact holds is read field by field. Only the data may be refused, for its nesting or
for its numbers. -/
theorem reads_content (c : Content) (hformat : c.format < 0x100000000) (levels : Nat) :
    ∃ x : Except Fault (Dictionary Value), Reads (Content.record.read (levels + 3)) c.render.toList
        (x.map fun data => { c with data := data }) ∧
      x.map Value.object = valueBuilder.make (levels + 2) (.object c.data) := by
  obtain ⟨x, hx, hmake⟩ := reads_mapOfValues (levels + 2) c.data
  refine ⟨x, ?_, hmake⟩
  have hdata := Record.reads_field Content.record.fields[0] (levels + 2) {} hx
    (fun data => ⟨some data, none, none, none⟩) fun _ => rfl
  have hrest (data : Dictionary Value) : Content.record.Fills (levels + 2)
      ⟨some data, none, none, none⟩
      [("format", (toString c.format).toList),
        ("modules", (arrayOf (c.modules.map Module.render)).toList), ("query", (quote c.query).toList)]
      (.ok ⟨some data, some c.format, some c.modules, some c.query⟩) := by
    have hformat := Record.reads_field Content.record.fields[1] (levels + 2)
      ⟨some data, none, none, none⟩ (reads_word32 hformat)
      (fun n => ⟨some data, some n, none, none⟩) fun _ => rfl
    have hmodules := Record.reads_field Content.record.fields[2] (levels + 2)
      ⟨some data, some c.format, none, none⟩ (reads_modules levels c.modules)
      (fun l => ⟨some data, some c.format, some l, none⟩) fun _ => rfl
    have hquery := Record.reads_field Content.record.fields[3] (levels + 2)
      ⟨some data, some c.format, some c.modules, none⟩ (reads_text c.query)
      (fun q => ⟨some data, some c.format, some c.modules, some q⟩) fun _ => rfl
    exact .field _ rfl rfl hformat (.field _ rfl rfl hmodules (.field _ rfl rfl hquery (.done _)))
  have hfills : Content.record.Fills (levels + 2) Content.record.blank
      [("data", (Value.object c.data).render.toList), ("format", (toString c.format).toList),
        ("modules", (arrayOf (c.modules.map Module.render)).toList), ("query", (quote c.query).toList)]
      (x.map fun data => ⟨some data, some c.format, some c.modules, some c.query⟩) := by
    cases x with
    | error f => exact .fault _ rfl rfl hdata
    | ok data => exact .field _ rfl rfl hdata (hrest data)
  have h := Record.reads_object (l := [("data", (Value.object c.data).render),
    ("format", toString c.format), ("modules", arrayOf (c.modules.map Module.render)),
    ("query", quote c.query)]) hfills
  cases x <;> exact h

/-- An artifact holds what was written into it, with the data as their text reads in the record
around them. -/
theorem exists_decode_encode (query : String) (s : SourceSet) :
    ∃ x : Except Fault (Dictionary Value),
      x.map Value.object = valueBuilder.make 126 (.object s.data) ∧
      (encode query s).decode = match x with
        | .ok data => .ok { contentOf query s with data := data }
        | .error f => .error (.compile (.artifact f)) := by
  obtain ⟨x, hx, hmake⟩ := reads_content (contentOf query s)
    (show 1 < 0x100000000 by decide) 124
  refine ⟨x, hmake, ?_⟩
  have h := hx [] ends_nil
  rw [List.append_nil, ← symbolsOfText, ← symbolsOfBytes_toUTF8] at h
  have hbytes : Content.ofBytes (encode query s).bytes
      = x.map fun data => { contentOf query s with data := data } := by
    rw [Content.ofBytes, encode, show nestingLimit = 124 + 3 from rfl, h]
    cases x <;> rfl
  rw [decode, hbytes]
  cases x <;> rfl

/-- Data that nest one level too deep for the record around them make an artifact that is not
read. -/
theorem decode_encode_tooDeep (query : String) {s : SourceSet}
    (hn : 126 < (Value.object s.data).nesting) (hr : (Value.object s.data).NumbersRead) :
    (encode query s).decode = .error (.compile (.artifact .tooDeep)) := by
  obtain ⟨x, hx, hdecode⟩ := exists_decode_encode query s
  rw [make_tooDeep hn hr] at hx
  cases x with
  | ok data => cases hx
  | error f =>
    cases hx
    exact hdecode

/-- Data that leave room for the record around them are read as their own text reads. -/
theorem exists_decode_encode_data (query : String) {s : SourceSet}
    (hn : (Value.object s.data).nesting ≤ 126) (hr : (Value.object s.data).NumbersRead) :
    ∃ data, Value.ofText (Value.object s.data).render = .ok (.object data) ∧
      (encode query s).decode = .ok { contentOf query s with data := data } := by
  obtain ⟨x, hx, hdecode⟩ := exists_decode_encode query s
  obtain ⟨w, hw⟩ := exists_make hn hr
  rw [hw] at hx
  cases x with
  | error f => cases hx
  | ok data =>
    cases hx
    exact ⟨data, by rw [Value.ofText_render]; exact make_mono hw (by decide), hdecode⟩

/-- Well-formed data whose numbers read back are read as they are. -/
theorem decode_encode (query : String) {s : SourceSet} (hs : s.WellFormed)
    (hn : (Value.object s.data).nesting ≤ 126) (hr : (Value.object s.data).NumbersReadBack) :
    (encode query s).decode = .ok (contentOf query s) := by
  obtain ⟨x, hx, hdecode⟩ := exists_decode_encode query s
  rw [make_self hn hs.data hr] at hx
  cases x with
  | error f => cases hx
  | ok data =>
    cases hx
    exact hdecode

theorem modules_contentOf (query : String) (s : SourceSet) :
    (contentOf query s).modules.map (fun m => (m.path, m.source)) = s.modules := by
  simp [contentOf, Function.comp_def]

end Artifact

/-! ### Preparing from an artifact -/

theorem prepareArtifact_of_decode {a : Artifact} {c : Artifact.Content} (h : a.decode = .ok c) :
    prepareArtifact a = prepare c.query (c.modules.map fun m => (m.path, m.source)) c.data := by
  rw [prepareArtifact, h, ok_bind]

theorem prepareArtifact_of_decode_error {a : Artifact} {f : Failure} (h : a.decode = .error f) :
    prepareArtifact a = .error f := by
  rw [prepareArtifact, h, error_bind]

/-- Sources are compiled by preparing the query once. -/
theorem compileSources_eq (query : String) (s : SourceSet) :
    compileSources query s
      = (prepare query s.modules s.data).map fun _ => Artifact.encode query s := by
  rw [compileSources]
  cases prepare query s.modules s.data <;> rfl

/-- An artifact gives back the query, the modules in the order of their keys and the data it was
made of; made again of these it has the same bytes, and the query is prepared from it by the very
steps that compile the sources. -/
theorem artifact_round_trip (query : String) {s : SourceSet} (hs : s.WellFormed)
    (hn : (Value.object s.data).nesting ≤ 126) (hr : (Value.object s.data).NumbersReadBack) :
    ∃ c, (Artifact.encode query s).decode = .ok c ∧
      c.format = 1 ∧ c.query = query ∧ c.data = s.data ∧
      c.modules.map (fun m => (m.path, m.source)) = s.modules ∧
      c.modules.Pairwise (fun m n => m.path < n.path) ∧
      c.render.toUTF8 = (Artifact.encode query s).bytes ∧
      Artifact.encode c.query
        { modules := c.modules.map fun m => (m.path, m.source), data := c.data }
          = Artifact.encode query s ∧
      prepareArtifact (Artifact.encode query s) = prepare query s.modules s.data ∧
      compileSources query s
        = (prepare query s.modules s.data).map fun _ => Artifact.encode query s := by
  have hdecode := Artifact.decode_encode query hs hn hr
  have hmodules := Artifact.modules_contentOf query s
  refine ⟨Artifact.contentOf query s, hdecode, rfl, rfl, rfl, hmodules, ?_, rfl, ?_, ?_,
    compileSources_eq query s⟩
  · exact List.pairwise_map.mpr hs.modules
  · rw [hmodules]
    rfl
  · rw [prepareArtifact_of_decode hdecode, hmodules]
    rfl

theorem artifact_round_trip_escapes :
    ∃ c, (Artifact.encode "data.m" ⟨[("m/a.rego", "package m\n\"\\\x00")],
        [("a", .array [.object [], .number (.int (-7))]), ("b\t", .string "é\"\x1f")], []⟩).decode
          = .ok c ∧
      c.data = [("a", .array [.object [], .number (.int (-7))]), ("b\t", .string "é\"\x1f")] := by
  have hrange : (Number.int (-7)).InRange := by simp [Number.InRange]
  obtain ⟨c, hc, -, -, hdata, -⟩ := artifact_round_trip "data.m"
    (s := ⟨[("m/a.rego", "package m\n\"\\\x00")],
      [("a", .array [.object [], .number (.int (-7))]), ("b\t", .string "é\"\x1f")], []⟩)
    ⟨by decide, .object (by decide) (by simp [hrange, Dictionary.sorted_nil])⟩ (by decide)
    (by simp [Number.readsBack_int hrange])
  exact ⟨c, hc, hdata⟩

end PolicyPack
