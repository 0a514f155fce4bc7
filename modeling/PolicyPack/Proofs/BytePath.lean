import PolicyPack.BytePath
import PolicyPack.Proofs.Path
import PolicyPack.Proofs.Text.Lenient

/-!
# Paths of bytes and of text

The bytes of a path that is text have the same components as the text, each encoded, since no other
character has the byte of a slash or a point in its encoding. Read again, they are the components of
the text.
-/

namespace PolicyPack

namespace Text

/-! ### Held bytes -/

theorem toNat_hold (b : UInt8) : (hold b).toNat = b.toNat := by
  have hvalid : b.toNat.isValidChar := .inl (Nat.lt_trans b.toNat_lt (by decide))
  exact toNat_ofNat hvalid

/-- Bytes that are held are the bytes. -/
theorem heldBytes_ofBytes (bytes : ByteArray) : heldBytes (ofBytes bytes) = bytes := by
  have hself : ((fun c : Char => UInt8.ofNat c.toNat) ∘ hold) = id := by
    funext b
    rw [Function.comp_apply, toNat_hold, UInt8.ofNat_toNat, id]
  rw [heldBytes, ofBytes, String.toList_ofList, List.map_map, hself, List.map_id]

theorem ofUtf8Lenient_encode (s : String) : ofUtf8Lenient (heldBytes (encode s)) = s := by
  rw [encode, heldBytes_ofBytes, ofUtf8Lenient_toUTF8]

theorem encode_injective : Function.Injective encode := fun s s' h => by
  rw [← ofUtf8Lenient_encode s, h, ofUtf8Lenient_encode]

/-- The encodings of characters, held as characters. -/
def encodeChars (l : List Char) : List Char := (l.flatMap String.utf8EncodeChar).map hold

theorem toList_encode (s : String) : (encode s).toList = encodeChars s.toList := by
  rw [encode, ofBytes, String.toList_ofList, toList_toUTF8, encodeChars]

theorem encode_ofList (l : List Char) :
    encode (String.ofList l) = String.ofList (encodeChars l) := by
  rw [← String.toList_inj, toList_encode, String.toList_ofList, String.toList_ofList]

theorem encodeChars_injective : Function.Injective encodeChars := fun l l' h => by
  refine String.ofList_injective (encode_injective ?_)
  rw [encode_ofList, encode_ofList, h]

theorem encodeChars_append (l m : List Char) :
    encodeChars (l ++ m) = encodeChars l ++ encodeChars m := by
  rw [encodeChars, List.flatMap_append, List.map_append]
  rfl

/-- No other character has a slash in its encoding. -/
theorem slash_not_mem_encodeChars {c : Char} (hc : c ≠ '/') : '/' ∉ encodeChars [c] := by
  intro hmem
  obtain ⟨b, hb, hslash⟩ := List.mem_map.mp hmem
  have hnumber : b.toNat = '/'.toNat := by rw [← toNat_hold, hslash]
  rw [List.flatMap_singleton] at hb
  refine not_mem_utf8EncodeChar (b := b) (c := c) ?_ (fun heq => hc ?_) hb
  · rw [hnumber]
    decide
  · exact Char.toNat_inj.mp (heq.symm.trans hnumber)

end Text

namespace Path

open Text

/-! ### Components -/

theorem split_append_of_not_mem {a b p : List Char} {ps : List (List Char)} (ha : '/' ∉ a)
    (hb : split b = p :: ps) : split (a ++ b) = (a ++ p) :: ps := by
  induction a with
  | nil => exact hb
  | cons c a ih =>
    obtain ⟨hc, ha⟩ : '/' ≠ c ∧ '/' ∉ a := by simpa using ha
    exact split_cons hc.symm (ih ha)

/-- The parts of the encoding are the encodings of the parts. -/
theorem split_encodeChars (l : List Char) : split (encodeChars l) = (split l).map encodeChars := by
  induction l with
  | nil => rfl
  | cons c l ih =>
    obtain ⟨p, ps, hl⟩ := exists_split l
    rw [hl] at ih
    rw [← List.singleton_append, encodeChars_append]
    by_cases hc : c = '/'
    · subst hc
      have hself : encodeChars ['/'] = ['/'] := by decide
      rw [hself, List.singleton_append, List.singleton_append, split_slash, split_slash, hl, ih]
      rfl
    · rw [split_append_of_not_mem (slash_not_mem_encodeChars hc) ih, List.singleton_append,
        split_cons hc hl, List.map_cons, ← encodeChars_append, List.singleton_append]

theorem slash_mem_encodeChars {l : List Char} (h : '/' ∈ encodeChars l) : '/' ∈ l := by
  refine Decidable.byContradiction fun hl => ?_
  have hself := split_encodeChars l
  rw [split_of_not_mem hl, List.map_singleton] at hself
  exact no_slash_of_mem_split (hself ▸ List.mem_singleton.mpr rfl) h

/-- The component of a path of bytes that a component stands for. -/
def Component.encoded : Component → Component
  | .name s => .name (encode s)
  | c => c

theorem Component.text_encoded (c : Component) : c.encoded.text = encode c.text := by
  cases c with
  | name s => rfl
  | root | here | up => decide

theorem Component.reading_encoded (c : Component) : c.encoded.reading = c.text := by
  rw [reading, text_encoded, ofUtf8Lenient_encode]

theorem Component.encoded_injective : Function.Injective encoded := fun c c' h => by
  cases c <;> cases c' <;> simp_all [encoded, encode_injective.eq_iff]

theorem componentOfPart?_encodeChars (part : List Char) :
    componentOfPart? (encodeChars part) = (componentOfPart? part).map Component.encoded := by
  have hnil : encodeChars part = [] ↔ part = [] := encodeChars_injective.eq_iff' rfl
  have hhere : encodeChars part = ['.'] ↔ part = ['.'] := encodeChars_injective.eq_iff' (by decide)
  have hup : encodeChars part = ['.', '.'] ↔ part = ['.', '.'] :=
    encodeChars_injective.eq_iff' (by decide)
  simp only [componentOfPart?, hnil, hhere, hup]
  split
  · rfl
  split
  · rfl
  · rw [Option.map_some, Component.encoded, encode_ofList]

theorem componentsOfParts_encodeChars (parts : List (List Char)) :
    componentsOfParts (parts.map encodeChars)
      = (componentsOfParts parts).map Component.encoded := by
  have hrest (ps : List (List Char)) : (ps.map encodeChars).filterMap componentOfPart?
      = (ps.filterMap componentOfPart?).map Component.encoded := by
    rw [List.filterMap_map, List.map_filterMap]
    exact congrArg (List.filterMap · ps) (funext componentOfPart?_encodeChars)
  cases parts with
  | nil => rfl
  | cons part ps =>
    cases part with
    | nil =>
      have hself : encodeChars [] = [] := rfl
      simp only [List.map_cons, hself, componentsOfParts, List.map_eq_nil_iff, hrest]
      split <;> rfl
    | cons c part =>
      have hne : encodeChars (c :: part) ≠ [] :=
        (encodeChars_injective.ne_iff' rfl).mpr (List.cons_ne_nil c part)
      have hhere : encodeChars (c :: part) = ['.'] ↔ c :: part = ['.'] :=
        encodeChars_injective.eq_iff' (by decide)
      rw [List.map_cons, componentsOfParts.eq_3 _ _ hne, componentsOfParts.eq_3 _ _ (by simp),
        List.map_append, hrest, componentOfPart?_encodeChars]
      congr 1
      simp only [hhere]
      split
      · rfl
      · cases componentOfPart? (c :: part) <;> rfl

theorem components_encoded (p : Path) :
    p.encoded.components = p.components.map Component.encoded := by
  rw [components, encoded, toList_encode, split_encodeChars, componentsOfParts_encodeChars]
  rfl

theorem fileName?_encoded (p : Path) : p.encoded.fileName? = p.fileName?.map encode := by
  rw [fileName?, fileName?, components_encoded, List.getLast?_map]
  cases p.components.getLast? with
  | none => rfl
  | some c => cases c <;> rfl

theorem componentsBelow?_encoded (base p : Path) :
    componentsBelow? base.encoded p.encoded
      = (componentsBelow? base p).map (List.map Component.encoded) := by
  have hprefix : (base.components.map Component.encoded).isPrefixOf
      (p.components.map Component.encoded) = base.components.isPrefixOf p.components := by
    rw [Bool.eq_iff_iff, List.isPrefixOf_iff_prefix, List.isPrefixOf_iff_prefix,
      List.prefix_map_iff_of_injective Component.encoded_injective]
  simp only [componentsBelow?, components_encoded, hprefix, List.length_map, ← List.map_drop]
  split <;> rfl

end Path

end PolicyPack
