/-!
# Paths

A path is text, read as a sequence of components. Empty parts and single points between slashes do
not count, but for a point at the very beginning; a path that begins with a slash is absolute.
-/

namespace PolicyPack

/-- A path of the file system. -/
structure Path where
  /-- The text of the path. -/
  text : String
deriving DecidableEq, Repr, Inhabited

namespace Path

/-- A component of a path. -/
inductive Component where
  /-- The slash at the beginning. -/
  | root
  /-- The point at the beginning. -/
  | here
  /-- Two points: the parent directory. -/
  | up
  | name (s : String)
deriving DecidableEq, Repr

/-- The text of a component. -/
def Component.text : Component → String
  | .root => "/"
  | .here => "."
  | .up => ".."
  | .name s => s

/-- The parts between slashes. -/
def split : List Char → List (List Char)
  | [] => [[]]
  | c :: r =>
    if c = '/' then [] :: split r
    else
      match split r with
      | [] => [[c]]
      | p :: ps => (c :: p) :: ps

/-- The component that a part stands for, when it is not the first. -/
def componentOfPart? (p : List Char) : Option Component :=
  if p = [] ∨ p = ['.'] then none
  else if p = ['.', '.'] then some .up
  else some (.name (String.ofList p))

/-- Whether the path begins at the root of the file system. -/
def isAbsolute (p : Path) : Bool := p.text.toList.head? = some '/'

/-- The components of the parts of a path. -/
def componentsOfParts (parts : List (List Char)) : List Component :=
  match parts with
  | [] => []
  | [] :: ps => if ps = [] then [] else .root :: ps.filterMap componentOfPart?
  | p :: ps =>
    (if p = ['.'] then [.here] else (componentOfPart? p).toList) ++ ps.filterMap componentOfPart?

/-- The components of a path. -/
def components (p : Path) : List Component := componentsOfParts (split p.text.toList)

/-- The last component, if it is a name. -/
def fileName? (p : Path) : Option String :=
  match p.components.getLast? with
  | some (.name s) => some s
  | _ => none

/-- What follows the last point of a name, when something stands before that point. -/
def extensionOfName? (name : List Char) : Option (List Char) :=
  let reversed := name.reverse
  let after := reversed.takeWhile (· != '.')
  let before := (reversed.dropWhile (· != '.')).drop 1
  if before.isEmpty then none else some after.reverse

/-- The extension of the last component, without its point. -/
def extension? (p : Path) : Option String :=
  p.fileName?.bind fun s => (extensionOfName? s.toList).map String.ofList

/-- The path `p` below the directory `base`. -/
def join (base p : Path) : Path :=
  if p.isAbsolute || base.text.isEmpty then p
  else if base.text.toList.getLast? = some '/' then ⟨base.text ++ p.text⟩
  else ⟨base.text ++ "/" ++ p.text⟩

/-- The components of `p` below `base`, if `p` begins with the components of `base`. -/
def componentsBelow? (base p : Path) : Option (List Component) :=
  let b := base.components
  if b.isPrefixOf p.components then some (p.components.drop b.length) else none

/-- Drops from the end the parts that are no component. -/
def dropBlankEnd (parts : List (List Char)) : List (List Char) :=
  let kept := (parts.reverse.dropWhile fun p => (componentOfPart? p).isNone).reverse
  -- a single point at the beginning is a component
  if kept = [] ∧ parts.head? = some ['.'] then [['.']] else kept

/-- The path without its last component, or `none` if it has none that can be taken away. -/
def parent? (p : Path) : Option Path :=
  let parts := split p.text.toList
  match parts with
  | [] :: body =>
    -- an absolute path keeps its first slash
    match dropBlankEnd ([] :: body) with
    | [] => none
    | kept =>
      let rest := (kept.drop 1).dropLast.reverse.dropWhile (fun q => (componentOfPart? q).isNone)
      some ⟨"/" ++ "/".intercalate (rest.reverse.map String.ofList)⟩
  | parts =>
    match dropBlankEnd parts with
    | [] => none
    | kept => some ⟨"/".intercalate ((dropBlankEnd kept.dropLast).map String.ofList)⟩

end Path

end PolicyPack
