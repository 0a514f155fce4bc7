import PolicyPack.Dictionary
import PolicyPack.Path
import PolicyPack.Text.Utf8

/-!
# File trees

A file tree is a directory with files, directories and symbolic links below it, and a working
directory against which relative paths are read. A path is followed step by step from the root; a
link on the way is replaced by the steps of its target, at most `linkLimit` times.
-/

namespace PolicyPack

/-- Why a file cannot be reached or read. -/
inductive FileFault where
  /-- There is nothing at the path. -/
  | absent
  /-- A step leads below something that is no directory. -/
  | notDirectory
  /-- A directory stands where a file is read. -/
  | isDirectory
  /-- Links lead to each other without end. -/
  | linkLoop
  /-- The path, or a name in it, is longer than paths and names can be. -/
  | tooLong
  /-- The path contains a zero character. -/
  | zeroInPath
  /-- The bytes of the file are no text. -/
  | notText
deriving DecidableEq, Repr

/-- The wording of the fault. -/
def FileFault.message : FileFault → String
  | .absent => "No such file or directory (os error 2)"
  | .notDirectory => "Not a directory (os error 20)"
  | .isDirectory => "Is a directory (os error 21)"
  | .linkLoop => "Too many levels of symbolic links (os error 40)"
  | .tooLong => "File name too long (os error 36)"
  | .zeroInPath => "file name contained an unexpected NUL byte"
  | .notText => "stream did not contain valid UTF-8"

/-- What can stand at a place of a file tree. -/
inductive Node where
  | file (content : ByteArray)
  /-- A directory with its entries, sorted by name. -/
  | directory (entries : List (String × Node))
  /-- A symbolic link with its target. -/
  | link (target : Path)
deriving Inhabited

namespace Node

/-- An empty directory. -/
def empty : Node := .directory []

/-- Whether the node is a directory. -/
def isDirectory : Node → Bool
  | .directory _ => true
  | _ => false

/-- Whether the node is a file. -/
def isFile : Node → Bool
  | .file _ => true
  | _ => false

/-- The bytes of a file. -/
def bytes : Node → Except FileFault ByteArray
  | .file content => .ok content
  | .directory _ => .error .isDirectory
  | .link _ => .error .linkLoop

/-- The text of a file. -/
def text (n : Node) : Except FileFault String := do
  match Text.ofUtf8 (← n.bytes) with
  | .ok s => return s
  | .error _ => throw .notText

/-- Puts a node at a place given by names, directories being made on the way. A directory that is
there already stays when a directory is put in its place. -/
def put (n : Node) : List String → Option Node → Node
  | [], old =>
    match n, old with
    | .directory [], some (.directory es) => .directory es
    | n, _ => n
  | k :: path, old =>
    let entries := match old with
      | some (.directory es) => es
      | _ => []
    .directory (Dictionary.insert k (n.put path (Dictionary.find? k entries)) entries)

end Node

/-- One step of following a path. -/
inductive Step where
  /-- To the root of the tree. -/
  | root
  /-- Nowhere, but only from a directory. -/
  | stay
  /-- To the directory above. -/
  | up
  /-- To an entry of a directory. -/
  | into (name : String)
deriving DecidableEq, Repr

/-- The step for a part of a path between slashes. -/
def Step.ofPart (p : List Char) : Step :=
  if p = [] ∨ p = ['.'] then .stay
  else if p = ['.', '.'] then .up
  else .into (String.ofList p)

/-- The steps of a path. -/
def Path.steps (p : Path) : List Step :=
  let steps := (split p.text.toList).map Step.ofPart
  if p.isAbsolute then .root :: steps else steps

/-- A tree of files and the directory that relative paths start from. -/
structure FileTree where
  /-- The directory at the top. -/
  root : Node := .empty
  /-- The working directory, from the top. -/
  working : Path := ⟨"/"⟩

namespace FileTree

/-- How many links may be followed on the way to one file. -/
def linkLimit : Nat := 40

/-- The greatest number of bytes in a name. -/
def nameLimit : Nat := 255

/-- The greatest number of bytes in a path. -/
def pathLimit : Nat := 4095

/-- Follows steps from the innermost of the open directories, which `above` lists up to the top. A
link at the very end is followed only if `followLast` says so. -/
def follow (root : Node) (followLast : Bool) (links : Nat) (here : Node) (above : List Node)
    (steps : List Step) : Except FileFault Node :=
  match steps with
  | [] => .ok here
  | step :: rest =>
    match here with
    | .directory entries =>
      match step with
      | .root => follow root followLast links root [] rest
      | .stay => follow root followLast links here above rest
      | .up =>
        match above with
        | [] => follow root followLast links here [] rest
        | parent :: above => follow root followLast links parent above rest
      | .into name =>
        match Dictionary.find? name entries with
        | none => .error (if nameLimit < name.utf8ByteSize then .tooLong else .absent)
        | some (.link target) =>
          if rest.isEmpty && !followLast then .ok (.link target)
          else
            match links with
            | 0 => .error .linkLoop
            | links + 1 => follow root followLast links here above (target.steps ++ rest)
        | some next => follow root followLast links next (here :: above) rest
    | _ => .error .notDirectory
termination_by (links, steps.length)

/-- Refuses a path that is too long to be opened. -/
def checkLength (p : Path) : Except FileFault Unit :=
  if pathLimit < p.text.utf8ByteSize then .error .tooLong else .ok ()

/-- What stands at a path. -/
def locate (t : FileTree) (followLast : Bool) (p : Path) : Except FileFault Node :=
  if '\x00' ∈ p.text.toList then .error .zeroInPath
  else if p.text.isEmpty then .error .absent
  else if pathLimit < p.text.utf8ByteSize then .error .tooLong
  else
    let steps := if p.isAbsolute then p.steps else t.working.steps ++ p.steps
    follow t.root followLast linkLimit t.root [] steps

/-- What stands at a path, a link at its end being followed. -/
def status (t : FileTree) (p : Path) : Except FileFault Node := t.locate true p

/-- What stands at a path, be it a link. -/
def entry (t : FileTree) (p : Path) : Except FileFault Node := t.locate false p

/-- Whether a path leads to a directory. -/
def isDirectory (t : FileTree) (p : Path) : Bool :=
  match t.status p with
  | .ok n => n.isDirectory
  | .error _ => false

/-- Whether a path leads to anything. -/
def hasPath (t : FileTree) (p : Path) : Bool :=
  match t.status p with
  | .ok _ => true
  | .error _ => false

/-- The text of the file at a path. -/
def readText (t : FileTree) (p : Path) : Except FileFault String := do
  (← t.status p).text

end FileTree

end PolicyPack
