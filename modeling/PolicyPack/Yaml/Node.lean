import PolicyPack.Yaml.Token

/-!
# YAML documents

A document is a tree of scalars, sequences and mappings. Where the text is malformed, the tree holds
a break: what stands before it in the order of the text is there, and nothing after it is.

A value can be given a name, and an alias stands for the value with a name. Names are numbered: a
name gets as its number how many different names there have been before, also when it is given
again. So two values can have one number; an alias stands for the last of them in the whole text,
which may stand after it, or around it.
-/

namespace PolicyPack.Yaml

/-- What is written before a value. -/
structure Properties where
  tag : Option String := none
  /-- The number of its name. -/
  number : Option Nat := none

/-- A node of a document. -/
inductive Node where
  | scalar (properties : Properties) (text : String) (style : ScalarStyle)
  | sequence (properties : Properties) (items : List Node)
  | mapping (properties : Properties) (entries : List (Node × Node))
  /-- The value with the name of a number. -/
  | alias (number : Nat)
  /-- The text is malformed from here on. -/
  | broken
deriving Inhabited

namespace Node

/-- A scalar that is not written. -/
def absent : Node := .scalar {} "" .plain

mutual

/-- The size of a node: a scalar or an alias counts once, and a collection twice beside what is in
it. -/
def size : Node → Nat
  | .scalar _ _ _ => 1
  | .sequence _ items => 2 + sizeOfItems items
  | .mapping _ entries => 2 + sizeOfEntries entries
  | .alias _ => 1
  | .broken => 0

/-- The size of all items. -/
def sizeOfItems : List Node → Nat
  | [] => 0
  | n :: r => n.size + sizeOfItems r

/-- The size of all entries. -/
def sizeOfEntries : List (Node × Node) → Nat
  | [] => 0
  | (k, v) :: r => k.size + v.size + sizeOfEntries r

end

mutual

/-- Puts the values with a name, under their numbers and the last of the text first, before those
that are found already. -/
def numbered (found : List (Nat × Node)) : Node → List (Nat × Node)
  | .scalar p text style => here found p (.scalar p text style)
  | .sequence p items => numberedItems (here found p (.sequence p items)) items
  | .mapping p entries => numberedEntries (here found p (.mapping p entries)) entries
  | .alias _ => found
  | .broken => found
where
  /-- A value itself, if it has a name. -/
  here (found : List (Nat × Node)) (p : Properties) (n : Node) : List (Nat × Node) :=
    match p.number with
    | some number => (number, n) :: found
    | none => found

/-- The same for the items of a sequence. -/
def numberedItems (found : List (Nat × Node)) : List Node → List (Nat × Node)
  | [] => found
  | n :: r => numberedItems (numbered found n) r

/-- The same for the entries of a mapping. -/
def numberedEntries (found : List (Nat × Node)) : List (Node × Node) → List (Nat × Node)
  | [] => found
  | (k, v) :: r => numberedEntries (numbered (numbered found k) v) r

end

end Node

/-- The tokens that are left, and the names that have been given. -/
structure Source where
  /-- The tokens that are left. -/
  tokens : List Token
  /-- The beginnings of tags by their handles. -/
  handles : List (String × String)
  /-- The names with their numbers, each once. -/
  names : List (String × Nat) := []

/-- What a part of a document has been read to be, and the source after it; there is none when the
text is malformed at the end of what was read. -/
abbrev Composed (α : Type) := α × Option Source

namespace Source

/-- The source at other tokens. -/
def withTokens (s : Source) (tokens : List Token) : Source := { s with tokens := tokens }

/-- Gives a name, which gets its number. -/
def name (s : Source) (a : String) : Source :=
  { s with names := (a, s.names.length) :: s.names.filter (·.1 != a) }

/-- Reads a node, unless one of the tokens comes that may stand after an absent one. -/
def nodeUnless (s : Source) (stops : Token → Bool) (read : Source → Composed Node) :
    Composed Node :=
  match s.tokens with
  | [] => (.broken, none)
  | t :: _ => if stops t then (.absent, some s) else read s

/-- Reads the value of an entry, which is absent without its indicator. -/
def entryValue (s : Source) (stops : Token → Bool) (read : Source → Composed Node) :
    Composed Node :=
  match s.tokens with
  | [] => (.broken, none)
  | .value :: r => nodeUnless (s.withTokens r) stops read
  | _ => (.absent, some s)

end Source

/-- The handles that are known without a directive. -/
def standardHandles : List (String × String) := [("!", "!"), ("!!", "tag:yaml.org,2002:")]

/-- A tag by its handle, if the handle is known. -/
def Source.tag? (s : Source) (handle tail : String) : Option String :=
  if handle = "" then some tail
  else (s.handles.lookup handle).map fun beginning => beginning ++ tail

/-- The name and the tag of a value, and the tokens after them. -/
def properties : List Token → Option String × Option (String × String) × List Token
  | .anchor a :: .tag h t :: r => (some a, some (h, t), r)
  | .tag h t :: .anchor a :: r => (some a, some (h, t), r)
  | .anchor a :: r => (some a, none, r)
  | .tag h t :: r => (none, some (h, t), r)
  | r => (none, none, r)

/-- Whether a token cannot begin an item of an indented sequence. -/
def stopsItem (t : Token) : Bool := t == .blockEntry || t == .blockEnd

/-- Whether a token cannot begin an item of a sequence that is not indented. -/
def stopsLooseItem (t : Token) : Bool :=
  t == .blockEntry || t == .key || t == .value || t == .blockEnd

/-- Whether a token cannot begin a part of an entry of an indented mapping. -/
def stopsEntry (t : Token) : Bool := t == .key || t == .value || t == .blockEnd

/-- Whether a token cannot begin a part of an entry before the closing bracket. -/
def stopsFlow (closing t : Token) : Bool := t == .flowEntry || t == closing

mutual

/-- Reads a node: in indentation or brackets, as the value of a mapping or not. -/
def compose (fuel : Nat) (inBlock loose : Bool) (s : Source) : Composed Node :=
  match fuel with
  | 0 => (.broken, none)
  | fuel + 1 =>
    match s.tokens with
    | .alias a :: r =>
      match s.names.lookup a with
      | some number => (.alias number, some (s.withTokens r))
      | none => (.broken, none)
    | tokens =>
      let (anchor, written?, r) := properties tokens
      match written?.map fun w => s.tag? w.1 w.2 with
      | some none => (.broken, none)
      | tag?? =>
        let p : Properties := ⟨tag??.join, anchor.map fun _ => s.names.length⟩
        let named : Source := (anchor.map s.name).getD s
        let s := named.withTokens r
        match r with
        | [] => (.broken, none)
        | .scalar text style :: r => (.scalar p text style, some (s.withTokens r))
        | .blockEntry :: _ =>
          if loose then Prod.map (.sequence p) id (looseItems fuel s) else empty s p
        | .flowSequence :: r =>
          Prod.map (.sequence p) id (flowItems fuel true (s.withTokens r))
        | .flowMapping :: r =>
          Prod.map (.mapping p) id (flowEntries fuel true (s.withTokens r))
        | .blockSequence :: r =>
          if inBlock then Prod.map (.sequence p) id (blockItems fuel (s.withTokens r))
          else empty s p
        | .blockMapping :: r =>
          if inBlock then Prod.map (.mapping p) id (blockEntries fuel (s.withTokens r))
          else empty s p
        | _ => empty s p
where
  /-- A node that consists of its name and tag only. -/
  empty (s : Source) (p : Properties) : Composed Node :=
    if p.number.isNone && p.tag.isNone then (.broken, none)
    else (.scalar p "" .plain, some s)

/-- Reads the items of an indented sequence. -/
def blockItems (fuel : Nat) (s : Source) : Composed (List Node) :=
  match fuel with
  | 0 => ([.broken], none)
  | fuel + 1 =>
    match s.tokens with
    | .blockEntry :: r =>
      match (s.withTokens r).nodeUnless stopsItem (compose fuel true false) with
      | (n, none) => ([n], none)
      | (n, some s) =>
        let (ns, s?) := blockItems fuel s
        (n :: ns, s?)
    | .blockEnd :: r => ([], some (s.withTokens r))
    | _ => ([.broken], none)

/-- Reads the items of a sequence that stands no deeper than the mapping around it. -/
def looseItems (fuel : Nat) (s : Source) : Composed (List Node) :=
  match fuel with
  | 0 => ([.broken], none)
  | fuel + 1 =>
    match s.tokens with
    | .blockEntry :: r =>
      match (s.withTokens r).nodeUnless stopsLooseItem (compose fuel true false) with
      | (n, none) => ([n], none)
      | (n, some s) =>
        let (ns, s?) := looseItems fuel s
        (n :: ns, s?)
    | [] => ([.broken], none)
    | _ => ([], some s)

/-- Reads the entries of an indented mapping. -/
def blockEntries (fuel : Nat) (s : Source) : Composed (List (Node × Node)) :=
  match fuel with
  | 0 => ([(.broken, .broken)], none)
  | fuel + 1 =>
    match s.tokens with
    | .key :: r =>
      match (s.withTokens r).nodeUnless stopsEntry (compose fuel true true) with
      | (k, none) => ([(k, .broken)], none)
      | (k, some s) =>
        match s.entryValue stopsEntry (compose fuel true true) with
        | (v, none) => ([(k, v)], none)
        | (v, some s) =>
          let (es, s?) := blockEntries fuel s
          ((k, v) :: es, s?)
    | .blockEnd :: r => ([], some (s.withTokens r))
    | _ => ([(.broken, .broken)], none)

/-- Reads the items of a sequence in brackets. An item may be a single entry of a mapping. -/
def flowItems (fuel : Nat) (first : Bool) (s : Source) : Composed (List Node) :=
  match fuel with
  | 0 => ([.broken], none)
  | fuel + 1 =>
    let next (n : Composed Node) : Composed (List Node) :=
      match n with
      | (n, none) => ([n], none)
      | (n, some s) =>
        let (ns, s?) := flowItems fuel false s
        (n :: ns, s?)
    let item (tokens : List Token) : Composed (List Node) :=
      match tokens with
      | [] => ([.broken], none)
      | .flowSequenceEnd :: r => ([], some (s.withTokens r))
      | .key :: r => next (flowPair fuel (s.withTokens r))
      | _ => next (compose fuel false false (s.withTokens tokens))
    if first then item s.tokens
    else
      match s.tokens with
      | .flowSequenceEnd :: r => ([], some (s.withTokens r))
      | .flowEntry :: r => item r
      | _ => ([.broken], none)

/-- Reads the single entry of a mapping that is an item of a sequence in brackets. -/
def flowPair (fuel : Nat) (s : Source) : Composed Node :=
  match fuel with
  | 0 => (.broken, none)
  | fuel + 1 =>
    let stops := stopsFlow .flowSequenceEnd
    let key : Composed Node := match s.tokens with
      | [] => (.broken, none)
      | t :: r =>
        -- the token that shows that there is no key is passed over
        if t == .value || stops t then (.absent, some (s.withTokens r))
        else compose fuel false false s
    match key with
    | (k, none) => (.mapping {} [(k, .broken)], none)
    | (k, some s) =>
      let (v, s?) := s.entryValue stops (compose fuel false false)
      (.mapping {} [(k, v)], s?)

/-- Reads the entries of a mapping in braces. -/
def flowEntries (fuel : Nat) (first : Bool) (s : Source) : Composed (List (Node × Node)) :=
  match fuel with
  | 0 => ([(.broken, .broken)], none)
  | fuel + 1 =>
    let stops := stopsFlow .flowMappingEnd
    let next (k : Node) (v : Composed Node) : Composed (List (Node × Node)) :=
      match v with
      | (v, none) => ([(k, v)], none)
      | (v, some s) =>
        let (es, s?) := flowEntries fuel false s
        ((k, v) :: es, s?)
    let entry (tokens : List Token) : Composed (List (Node × Node)) :=
      match tokens with
      | [] => ([(.broken, .broken)], none)
      | .flowMappingEnd :: r => ([], some (s.withTokens r))
      | .key :: r =>
        let ends (t : Token) : Bool := t == .value || stops t
        match (s.withTokens r).nodeUnless ends (compose fuel false false) with
        | (k, none) => ([(k, .broken)], none)
        | (k, some s) => next k (s.entryValue stops (compose fuel false false))
      | _ =>
        match compose fuel false false (s.withTokens tokens) with
        | (k, none) => ([(k, .broken)], none)
        | (k, some s) =>
          next k (if s.tokens.isEmpty then (.broken, none) else (.absent, some s))
    if first then entry s.tokens
    else
      match s.tokens with
      | .flowMappingEnd :: r => ([], some (s.withTokens r))
      | .flowEntry :: r => entry r
      | _ => ([(.broken, .broken)], none)

end

/-- A document. -/
structure Document where
  /-- Its value. -/
  root : Node
  /-- Whether the text ends with it. -/
  isWhole : Bool

namespace Document

/-- The handles that directives give, and the tokens after them; the version has to be a known one,
and nothing is given twice. -/
def directives (versioned : Bool) (handles : List (String × String)) :
    List Token → Option (List (String × String) × List Token)
  | .version major minor :: r =>
    if versioned || major != 1 || !(minor == 1 || minor == 2) then none
    else directives true handles r
  | .handle name beginning :: r =>
    if (handles.lookup name).isSome then none
    else directives versioned ((name, beginning) :: handles) r
  | r => some (handles, r)

/-- Whether a document without a value ends before a token. -/
def endsEmpty : Token → Bool
  | .version _ _ | .handle _ _ | .documentStart | .documentEnd | .textEnd => true
  | _ => false

/-- The document of a list of tokens. After directives it has to begin with its mark. -/
def ofTokens (ts : List Token) : Document :=
  let read (s : Source) : Composed Node := compose (4 * ts.length + 8) true false s
  let (root, s?) : Composed Node := match ts, directives false [] ts with
    | .textEnd :: _, _ => (.absent, some ⟨ts, standardHandles, []⟩)
    | _, none => (.broken, none)
    | _, some (handles, .documentStart :: r) =>
      Source.nodeUnless ⟨r, handles ++ standardHandles, []⟩ endsEmpty read
    | _, some (_, r) =>
      if r.length = ts.length then read ⟨ts, standardHandles, []⟩ else (.broken, none)
  let ends (s : Source) : Bool :=
    (s.tokens.dropWhile (· == .documentEnd)).head? == some .textEnd
  ⟨root, (s?.map ends).getD false⟩

/-- The document of a text. -/
def ofText (text : String) : Document := ofTokens (tokens text)

end Document

end PolicyPack.Yaml
