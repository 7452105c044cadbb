import IconPress.Files.DiskError

/-!
# File trees

A tree of directories, files and symbolic links, and how paths lead through it.  A tree is kept
flat: every entry stands beside its location, the list of names that lead to it from the root.
The root itself is always a directory and is not listed.

Main definitions:

- `FileTree.at?`: what stands at a location.
- `FileTree.resolve`: the location that a path leads to, all links followed.
- `FileTree.slot`: the place that a path names, its last part not followed.
- `FileTree.read`, `present`, `isDirectory`: looking at what a path leads to.
-/

namespace IconPress

/-- The names that lead from the root to an entry. -/
abbrev Location :=
  List String

/-- What stands at a location. -/
inductive Entry where
  | file (bytes : List UInt8)
  | directory
  | link (target : String)
deriving DecidableEq, Repr

/-- All entries with their locations, and the working directory. -/
structure FileTree where
  entries : List (Location × Entry)
  here : Location
deriving DecidableEq, Repr

/-- The place that a path names. -/
inductive Slot where
  /-- A name in a directory, whether or not something bears it. -/
  | named (directory : Location) (name : String)
  /-- A directory reached by a double dot or by no name at all. -/
  | nameless
deriving DecidableEq, Repr

namespace FileTree

/-- The tree that holds nothing but its working directory. -/
def fresh (here : Location) : FileTree :=
  ⟨(List.range here.length).map fun depth => (here.take (depth + 1), .directory), here⟩

/-- What stands at a location. -/
def at? (tree : FileTree) (location : Location) : Option Entry :=
  if location.isEmpty then some .directory else tree.entries.lookup location

/-- The longest name that a directory can hold, in bytes. -/
def nameLimit : Nat :=
  255

/-- The length from which on a path's text is refused, in bytes. -/
def pathLimit : Nat :=
  4096

/-- The number of links that may be met on the way. -/
def linkLimit : Nat :=
  40

/-- The names that a link's target leads through; a separator at the end asks for a directory. -/
def targetNames (target : String) : List String :=
  let names := (Text.pieces '/' target.toList).map String.ofList
  let kept := names.filter (· ≠ "")
  if names.getLast? = some "" then kept ++ ["."] else kept

/-- Whether a target starts at the root. -/
def isRooted (target : String) : Bool :=
  target.toList.head? = some '/'

/--
Follow names from a location.  Each name is looked up in a directory; `jump` goes on from a
location where a link has been replaced by the names of its target.  Nothing needs to stand under
the last name: the walk ends where it would stand.
-/
def walkWith (tree : FileTree) (jump : Location → List String → Except Obstacle Location) :
    Location → List String → Except Obstacle Location
  | location, [] => .ok location
  | location, name :: names =>
    match tree.at? location with
    | some .directory =>
      if name = "." then
        walkWith tree jump location names
      else if name = ".." then
        walkWith tree jump location.dropLast names
      else if nameLimit < name.utf8ByteSize then
        .error .nameTooLong
      else
        match tree.at? (location ++ [name]) with
        | none => if names.isEmpty then .ok (location ++ [name]) else .error .missing
        | some (.link target) =>
          jump (if isRooted target then [] else location) (targetNames target ++ names)
        | some _ => walkWith tree jump (location ++ [name]) names
    | _ => .error .notDirectory

/-- Follow names from a location through at most so many links. -/
def walk (tree : FileTree) : Nat → Location → List String → Except Obstacle Location
  | 0 => walkWith tree fun _ _ => .error .tooManyLinks
  | links + 1 => walkWith tree (walk tree links)

/-- The location where a path starts. -/
def startOf (tree : FileTree) (path : Path) : Location :=
  match path.anchor with
  | .here => tree.here
  | .root | .doubleRoot => []

/-- Refuses a path whose text is too long to be looked at. -/
def checkLength (path : Path) : Except Obstacle Unit :=
  if path.text.utf8ByteSize < pathLimit then .ok () else .error .nameTooLong

/-- The location that a path leads to, all links followed, whether or not something is there. -/
def resolve (tree : FileTree) (path : Path) : Except Obstacle Location := do
  checkLength path
  walk tree linkLimit (tree.startOf path) path.parts

/-- What a path leads to, all links followed. -/
def find (tree : FileTree) (path : Path) : Except Obstacle Entry := do
  let location ← tree.resolve path
  match tree.at? location with
  | some entry => .ok entry
  | none => .error .missing

/-- The place that a path names: links are followed on the way to it, not at its end. -/
def slot (tree : FileTree) (path : Path) : Except Obstacle Slot := do
  checkLength path
  let directory ← walk tree linkLimit (tree.startOf path) path.parts.dropLast
  match path.name? with
  | none => .ok .nameless
  | some name =>
    match tree.at? directory with
    | some .directory =>
      if name = ".." then .ok .nameless
      else if nameLimit < name.utf8ByteSize then .error .nameTooLong
      else .ok (.named directory name)
    | none => .error .missing
    | some _ => .error .notDirectory

/-- The bytes of the file that a path leads to. -/
def read (tree : FileTree) (path : Path) : Except Obstacle (List UInt8) := do
  match ← tree.find path with
  | .file bytes => .ok bytes
  | _ => .error .isDirectory

/-- Whether a path leads to something, where the question has an answer. -/
def present (tree : FileTree) (path : Path) : Except Obstacle Bool :=
  match tree.find path with
  | .ok _ => .ok true
  | .error obstacle => if obstacle.meansAbsent then .ok false else .error obstacle

/-- Whether a path leads to a directory, where the question has an answer. -/
def isDirectory (tree : FileTree) (path : Path) : Except Obstacle Bool :=
  match tree.find path with
  | .ok entry => .ok (entry = .directory)
  | .error obstacle => if obstacle.meansAbsent then .ok false else .error obstacle

end FileTree
end IconPress
