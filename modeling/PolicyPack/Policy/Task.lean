import PolicyPack.Policy.Program

/-!
# What rules put where

A clause of a rule stands for a task: where its body holds, a value is put at a place, under keys.
The tasks of a rule are in the order of its clauses, and the first that succeeds is the last that is
done. A document that a rule alone makes exists even where none of them succeeds, if the form of the
rule shows that it holds several values.
-/

namespace PolicyPack.Policy

/-- A value to be put under keys at a place where a body holds. -/
structure Task where
  place : List String
  /-- The keys below the place. -/
  keys : List Term := []
  value : Term
  body : List Condition

/-- Whether the keys and the value are written out, so that one way for the body to hold tells as
much as all of them. -/
def Task.isPlain (t : Task) : Bool := t.value.isLiteral && t.keys.all Term.isLiteral

/-- The value of a clause. -/
def Clause.result (c : Clause) : Term := c.value.getD (.literal (.bool true))

/-- The keys that follow the names at the front. -/
def keysAfterNames (keys : List HeadKey) : List Term :=
  (keys.drop (headNames keys).length).map HeadKey.term

namespace Definition

/-- The place of the rule's name. -/
def root (d : Definition) : List String := d.home.package ++ [d.rule.name]

/-- The keys of the document that a rule without a written element adds its last key to. -/
def setKeys (d : Definition) : List HeadKey :=
  match d.rule.kind with
  | .member none => d.rule.keys.dropLast
  | _ => d.rule.keys

/-- The place where a rule that adds members makes a set in any case. -/
def setPlace (d : Definition) : List String :=
  let keys := match d.rule.kind, d.rule.keys.getLast? with
    | .member none, some k => if k.isBracket then d.rule.keys.dropLast else d.rule.keys
    | _, _ => d.rule.keys
  d.root ++ headNames keys

/-- The task of the first clause. -/
def firstTask (d : Definition) (c : Clause) : Task where
  place := d.path
  keys := keysAfterNames d.setKeys
  value := match d.rule.kind with
    | .member (some e) => e
    | .member none => ((d.rule.keys.getLast?.map HeadKey.term).getD c.result)
    | _ => c.result
  body := c.body

/-- The task of a later clause. -/
def laterTask (d : Definition) (c : Clause) : Task :=
  match d.rule.kind with
  | .member _ => { place := d.setPlace, value := c.result, body := c.body }
  | _ => { place := d.path, keys := keysAfterNames d.rule.keys, value := c.result, body := c.body }

/-- The tasks of a rule. -/
def tasks (d : Definition) : List Task :=
  match d.rule.clauses with
  | [] => []
  | c :: r => d.firstTask c :: r.map d.laterTask

/-- The document that exists even where no task of the rule succeeds: a set, or an object whose
entries have keys in brackets. -/
def ground? (d : Definition) : Option (List String × Value) :=
  match d.rule.kind with
  | .member _ => some (d.setPlace, .set [])
  | .value =>
    if d.rule.keys.getLast?.any HeadKey.isBracket then
      some (d.root ++ headNames d.rule.keys.dropLast, .object [])
    else none
  | .function _ => none

end Definition

end PolicyPack.Policy
