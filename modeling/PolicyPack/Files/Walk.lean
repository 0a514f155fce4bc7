import PolicyPack.Files.Tree

/-!
# Walking a file tree

A walk visits what is below a root in order: a directory before its entries, the entries by name.
The path of an entry is the path of its directory, a slash and its name. Links below the root are
visited but not followed; a root that is a link to a directory is. What is visited is opened by its
path, directories as soon as they are met.
-/

namespace PolicyPack

/-- Whether to leave an entry and what is below it out of a walk, given its path, whether it is a
directory, and its depth. -/
abbrev EntryFilter := Path → Bool → Nat → Bool

/-- The filter that leaves nothing out. -/
def EntryFilter.none : EntryFilter := fun _ _ _ => false

/-- An entry met on a walk. -/
structure WalkEntry where
  /-- The path that led to the entry. -/
  path : Path
  /-- What stands there. -/
  node : Node

/-- The path of an entry of a directory. -/
def Path.child (p : Path) (name : String) : Path := p.join ⟨name⟩

mutual

/-- The entries at and below a node. -/
def Node.walk (excluded : EntryFilter) (depth : Nat) (path : Path) : Node → List WalkEntry
  | .file content =>
    if excluded path false depth then [] else [⟨path, .file content⟩]
  | .link target =>
    if excluded path false depth then [] else [⟨path, .link target⟩]
  | .directory entries =>
    if excluded path true depth then []
    else ⟨path, .directory entries⟩ :: walkEntries excluded (depth + 1) path entries

/-- The entries at and below the entries of a directory. -/
def walkEntries (excluded : EntryFilter) (depth : Nat) (path : Path) :
    List (String × Node) → List WalkEntry
  | [] => []
  | (name, n) :: rest =>
    n.walk excluded depth (path.child name) ++ walkEntries excluded depth path rest

end

/-- The entries at and below a root. A root that is a link to a directory is met as the link and
then as the directory. Leaving out the link does not leave out the directory and what is below it. -/
def FileTree.walk (t : FileTree) (excluded : EntryFilter) (root : Path) :
    Except FileFault (List WalkEntry) := do
  match ← t.entry root with
  | .link target =>
    let own := if excluded root false 0 then [] else [⟨root, .link target⟩]
    match ← t.status root with
    | .directory entries =>
      return own ++ ⟨root, .directory entries⟩ :: walkEntries excluded 1 root entries
    | _ => return own
  | n => return n.walk excluded 0 root

/-- How something is opened: a directory to see what is in it, or a file to read it. -/
inductive Opening where
  | directory
  | file (content : ByteArray)

/-- How a node is opened. A link is not. -/
def Node.opening? : Node → Option Opening
  | .directory _ => some .directory
  | .file content => some (.file content)
  | .link _ => none

/-- The path under which an entry is opened, and how. -/
def WalkEntry.opening? (e : WalkEntry) : Option (Path × Opening) :=
  e.node.opening?.map fun o => (e.path, o)

end PolicyPack
