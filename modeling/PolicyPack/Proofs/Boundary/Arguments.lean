import PolicyPack.Boundary.Call
import PolicyPack.Proofs.Text.Utf8

/-!
# Decoded arguments

The text of an argument is what its bytes before the first zero byte encode, if they encode a text.
What a call asks of its arguments is a list of checks, in the order in which it makes them. A
decoder in line with such a list returns the values of the arguments if they all have one, and else
the message of the first check that fails.
-/

namespace PolicyPack.Boundary

/-! ### Zero bytes -/

/-- What C reads of bytes as a text: the longest part at their beginning without a zero byte. -/
structure IsCut (bytes cut : ByteArray) : Prop where
  begins : cut.data.toList <+: bytes.data.toList
  zero_not_mem : 0 ∉ cut.data.toList
  longest : ∀ l, l <+: bytes.data.toList → 0 ∉ l → l.length ≤ cut.data.toList.length

theorem IsCut.unique {bytes cut cut' : ByteArray} (h : IsCut bytes cut) (h' : IsCut bytes cut') :
    cut = cut' := by
  have hle := h'.longest _ h.begins h.zero_not_mem
  have hge := h.longest _ h'.begins h'.zero_not_mem
  have hpart := List.prefix_of_prefix_length_le h.begins h'.begins hle
  exact ByteArray.ext (Array.toList_inj.mp (hpart.eq_of_length_le hge))

/-- A zero byte ends what is read, whatever comes after it. -/
theorem isCut_of_append {bytes cut : ByteArray} {rest : List UInt8} (h : 0 ∉ cut.data.toList)
    (hbytes : bytes.data.toList = cut.data.toList ++ 0 :: rest) : IsCut bytes cut := by
  refine ⟨hbytes ▸ List.prefix_append .., h, fun l hl hzero => ?_⟩
  refine Nat.le_of_not_lt fun hlt => hzero ?_
  -- a longer part reaches the zero byte
  have hlonger : cut.data.toList ++ [0] <+: bytes.data.toList :=
    ⟨rest, by rw [hbytes, List.append_assoc, List.singleton_append]⟩
  have hlength : (cut.data.toList ++ [0]).length ≤ l.length := by
    rw [List.length_append, List.length_singleton]
    exact hlt
  have hreaches := List.prefix_of_prefix_length_le hlonger hl hlength
  exact hreaches.mem (by simp)

theorem isCut_self {bytes : ByteArray} (h : 0 ∉ bytes.data.toList) : IsCut bytes bytes :=
  ⟨List.prefix_refl _, h, fun _ hl _ => hl.length_le⟩

theorem isCut_beforeZero (bytes : ByteArray) : IsCut bytes (beforeZero bytes) := by
  have hcut : (beforeZero bytes).data.toList = bytes.data.toList.takeWhile (· != 0) := by
    rw [beforeZero, Array.toList_takeWhile]
  have hzero : 0 ∉ (beforeZero bytes).data.toList := by
    rw [hcut]
    intro hmem
    simpa using List.all_eq_true.mp List.all_takeWhile _ hmem
  have hsplit := List.takeWhile_append_dropWhile (p := (· != 0)) (l := bytes.data.toList)
  rw [← hcut] at hsplit
  cases hrest : bytes.data.toList.dropWhile (· != 0) with
  | nil =>
    rw [hrest, List.append_nil] at hsplit
    obtain hself : beforeZero bytes = bytes := ByteArray.ext (Array.toList_inj.mp hsplit)
    rw [hself] at hzero ⊢
    exact isCut_self hzero
  | cons x rest =>
    have hx : x = 0 := by
      have hhead := List.head_dropWhile_not (l := bytes.data.toList) (· != 0) (by simp [hrest])
      simpa [hrest] using hhead
    rw [hrest, hx] at hsplit
    exact isCut_of_append hzero hsplit.symm

/-- The bytes of a text argument up to where C stops reading. -/
def cutBytes (bytes : ByteArray) : { cut : ByteArray // IsCut bytes cut } :=
  ⟨beforeZero bytes, isCut_beforeZero bytes⟩

theorem cutBytes_eq {bytes cut : ByteArray} (h : IsCut bytes cut) : (cutBytes bytes).1 = cut :=
  (cutBytes bytes).2.unique h

/-! ### Values -/

/-- The text that C reads behind a pointer. -/
def textOf? (a : TextArgument) : Option String :=
  a.bind fun bytes => String.fromUTF8? (cutBytes bytes).1

/-- An argument stands for a text exactly if C reads the bytes of the text. -/
theorem textOf?_eq_some {a : TextArgument} {s : String} :
    textOf? a = some s ↔ ∃ bytes, a = some bytes ∧ IsCut bytes s.toUTF8 := by
  rw [textOf?, Option.bind_eq_some_iff]
  refine exists_congr fun bytes => and_congr_right fun _ => ?_
  rw [Text.fromUTF8?_eq_some]
  constructor
  · intro h
    exact h ▸ (cutBytes bytes).2
  · exact cutBytes_eq

/-- The texts of a list; a null pointer stands for no texts. -/
def textsOf? : ListArgument → Option (List String)
  | .null length => if length = 0 then some [] else none
  | .items texts => texts.mapM textOf?

/-! ### Checks -/

/-- What a call asks of its arguments. Registries are known by indices. -/
inductive Check (ι : Type) where
  /-- There is a registry. -/
  | registry (i : Option ι)
  /-- There is an artifact. -/
  | artifact (bytes : Option ByteArray)
  /-- The registry knows the handle. -/
  | handle (i : Option ι) (h : Handle)
  /-- The argument with the name is a text. -/
  | text (name : String) (a : TextArgument)
  /-- A null pointer comes with no length. -/
  | noLength (name : String) (length : Nat)

variable {ι : Type}

/-- The message of a check that fails. -/
def Check.fault? (regs : ι → Registry) : Check ι → Option String
  | .registry none => some "registry must not be null"
  | .registry (some _) => none
  | .artifact none => some "artifact must not be null"
  | .artifact (some _) => none
  | .handle none _ => none
  | .handle (some i) h =>
    match (regs i).lookup h with
    | .ok _ => none
    | .error _ => some "could not find rego query"
  | .text name none => some (name ++ " must not be null")
  | .text name (some bytes) =>
    match Text.ofUtf8 (cutBytes bytes).1 with
    | .ok _ => none
    | .error f => some (name ++ " is not valid utf-8: " ++ f.message)
  | .noLength name length =>
    if length = 0 then none
    else some (name ++ s!" must not be null when its length is {length}")

/-- The message of the first check that fails. -/
def firstFault? (regs : ι → Registry) (checks : List (Check ι)) : Option String :=
  checks.findSome? (Check.fault? regs)

/-- The checks of a list: one for each item, under the name with its position, or one for the
pointer. -/
def listChecks (name : String) : ListArgument → List (Check ι)
  | .null length => [.noLength name length]
  | .items texts => texts.zipIdx.map fun x => .text (name ++ s!"[{x.2}]") x.1

variable {regs : ι → Registry}

theorem firstFault?_of_none {check : Check ι} (h : check.fault? regs = none)
    (checks : List (Check ι)) : firstFault? regs (check :: checks) = firstFault? regs checks := by
  rw [firstFault?, List.findSome?_cons, h]
  rfl

theorem firstFault?_of_some {check : Check ι} {message : String}
    (h : check.fault? regs = some message) (checks : List (Check ι)) :
    firstFault? regs (check :: checks) = some message := by
  rw [firstFault?, List.findSome?_cons, h]

/-! ### Decoders -/

variable {α β : Type}

/-- A decoder is in line with checks on the way to a value. -/
inductive Decodes (regs : ι → Registry) (checks : List (Check ι)) :
    Except CallFault α → Option α → Prop
  | ok {x : α} (hnone : firstFault? regs checks = none) : Decodes regs checks (.ok x) (some x)
  | error {f : CallFault} (hfault : firstFault? regs checks = some f.message) :
    Decodes regs checks (.error f) none

theorem Decodes.ok_or_error {checks : List (Check ι)} {d : Except CallFault α} {value? : Option α}
    (h : Decodes regs checks d value?) :
    (∃ x, d = .ok x ∧ value? = some x) ∨
      ∃ f, d = .error f ∧ value? = none ∧ firstFault? regs checks = some f.message := by
  cases h with
  | ok _ => exact .inl ⟨_, rfl, rfl⟩
  | error hfault => exact .inr ⟨_, rfl, rfl, hfault⟩

/-- Only the first fault of the checks counts. -/
theorem Decodes.congr {checks checks' : List (Check ι)} {d : Except CallFault α}
    {value? : Option α} (h : Decodes regs checks d value?)
    (hfault : firstFault? regs checks' = firstFault? regs checks) :
    Decodes regs checks' d value? := by
  cases h with
  | ok hnone => exact .ok (hfault.trans hnone)
  | error hsome => exact .error (hfault.trans hsome)

/-- Decoders in a row make their checks in a row. -/
theorem Decodes.bind {checks more : List (Check ι)} {d : Except CallFault α} {value? : Option α}
    {next : α → Except CallFault β} {nextValue? : α → Option β} (h : Decodes regs checks d value?)
    (hnext : ∀ x, Decodes regs more (next x) (nextValue? x)) :
    Decodes regs (checks ++ more) (d >>= next) (value? >>= nextValue?) := by
  have happend : firstFault? regs (checks ++ more)
      = (firstFault? regs checks).or (firstFault? regs more) := List.findSome?_append
  cases h with
  | @ok x hnone =>
    rw [hnone, Option.none_or] at happend
    exact (hnext x).congr happend
  | error hfault =>
    rw [hfault, Option.some_or] at happend
    exact .error happend

theorem Decodes.map {checks : List (Check ι)} {d : Except CallFault α} {value? : Option α}
    (h : Decodes regs checks d value?) (g : α → β) :
    Decodes regs checks (d >>= fun x => pure (g x)) (value? >>= fun x => pure (g x)) := by
  cases h with
  | ok hnone => exact .ok hnone
  | error hfault => exact .error hfault

theorem decodes_text (name : String) (a : TextArgument) :
    Decodes regs [.text name a] (decodeText name a) (textOf? a) := by
  cases a with
  | none => exact .error rfl
  | some bytes =>
    have hfault : firstFault? regs [.text name (some bytes)]
        = (Check.text name (some bytes)).fault? regs := by
      simp [firstFault?]
    rw [Check.fault?, cutBytes_eq (isCut_beforeZero bytes)] at hfault
    rw [decodeText, textOf?, Option.bind_some, cutBytes_eq (isCut_beforeZero bytes)]
    cases hd : Text.ofUtf8 (beforeZero bytes) with
    | ok s =>
      rw [Text.fromUTF8?_eq_some.mpr (Text.ofUtf8_eq_ok.mp hd)]
      rw [hd] at hfault
      exact .ok hfault
    | error f =>
      have hnone : String.fromUTF8? (beforeZero bytes) = none := by
        refine Option.eq_none_iff_forall_ne_some.mpr fun s hs => ?_
        rw [Text.ofUtf8_eq_ok.mpr (Text.fromUTF8?_eq_some.mp hs)] at hd
        cases hd
      rw [hnone]
      rw [hd] at hfault
      exact .error hfault

theorem decodes_items (name : String) (index : Nat) (texts : List TextArgument) :
    Decodes regs ((texts.zipIdx index).map fun x => .text (name ++ s!"[{x.2}]") x.1)
      (decodeItems name index texts) (texts.mapM textOf?) := by
  induction texts generalizing index with
  | nil => exact .ok rfl
  | cons a texts ih =>
    rw [decodeItems, List.mapM_cons, List.zipIdx_cons, List.map_cons, ← List.singleton_append]
    exact (decodes_text _ a).bind fun s => (ih (index + 1)).map (s :: ·)

theorem decodes_list (name : String) (l : ListArgument) :
    Decodes regs (listChecks name l) (decodeList name l) (textsOf? l) := by
  cases l with
  | null length =>
    cases length with
    | zero => exact .ok rfl
    | succ length => exact .error rfl
  | items texts => exact decodes_items name 0 texts

end PolicyPack.Boundary
