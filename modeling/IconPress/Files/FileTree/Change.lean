import IconPress.Files.FileTree

/-!
# Changing a file tree

The operations of a file system that change a tree.  Each one gives the tree after it, or the
obstacle that keeps the tree as it is.

Main definitions:

- `FileTree.makeDirectory`, `create`, `makeLink`: new entries, where nothing stands.
- `FileTree.rename`: a new name in the same directory.
- `FileTree.overwrite`, `remove`: the end of what a file held.
-/

namespace IconPress
namespace FileTree

/-- Put an entry where nothing stands. -/
def add (tree : FileTree) (path : Path) (entry : Entry) : Except Obstacle FileTree := do
  match ← tree.slot path with
  | .nameless => .error .occupied
  | .named directory name =>
    match tree.at? (directory ++ [name]) with
    | some _ => .error .occupied
    | none => .ok { tree with entries := (directory ++ [name], entry) :: tree.entries }

/-- Make a directory; the directory that it stands in has to be there. -/
def makeDirectory (tree : FileTree) (path : Path) : Except Obstacle FileTree :=
  tree.add path .directory

/-- Make a file where nothing stands, not even a link that leads nowhere. -/
def create (tree : FileTree) (path : Path) (bytes : List UInt8) : Except Obstacle FileTree :=
  tree.add path (.file bytes)

/-- Make a symbolic link where nothing stands. -/
def makeLink (tree : FileTree) (path : Path) (target : String) : Except Obstacle FileTree :=
  tree.add path (.link target)

/--
Give the file that a path leads to new bytes, or make it there.  A link that leads nowhere yet
leads to the new file afterwards.
-/
def overwrite (tree : FileTree) (path : Path) (bytes : List UInt8) : Except Obstacle FileTree := do
  let location ← tree.resolve path
  match tree.at? location with
  | some (.file _) =>
    let replace := fun listed : Location × Entry =>
      if listed.1 = location then (location, .file bytes) else listed
    .ok { tree with entries := tree.entries.map replace }
  | some _ => .error .isDirectory
  | none => .ok { tree with entries := (location, .file bytes) :: tree.entries }

/-- Take away the entry that stands at a location. -/
def eraseAt (tree : FileTree) (location : Location) : FileTree :=
  { tree with entries := tree.entries.eraseP fun listed => listed.1 = location }

/-- A location at or below `source` is taken to the same place at or below `target`. -/
def shift (source target location : Location) : Location :=
  if source.isPrefixOf location then target ++ location.drop source.length else location

/-- Take everything at or below a location to another one. -/
def relocate (tree : FileTree) (source target : Location) : FileTree where
  entries := tree.entries.map fun listed => (shift source target listed.1, listed.2)
  here := shift source target tree.here

/-- Whether anything stands below a location. -/
def hasContent (tree : FileTree) (location : Location) : Bool :=
  tree.entries.any fun listed => location.isPrefixOf listed.1 && listed.1 ≠ location

/-- Whether an entry may take the place of another one. -/
def mayReplace (tree : FileTree) (location : Location) : Entry → Entry → Except Obstacle Unit
  | .directory, .directory => if tree.hasContent location then .error .notEmpty else .ok ()
  | .directory, _ => .error .notDirectory
  | _, .directory => .error .isDirectory
  | _, _ => .ok ()

/--
Give the entry that a path names, with all that is below it, another name in the same directory.
A link is renamed itself, and an entry of the new name gives way if it is of the same kind.
-/
def rename (tree : FileTree) (path : Path) (newName : String) : Except Obstacle FileTree := do
  match ← tree.slot path with
  | .nameless => .error .busy
  | .named directory name =>
    let source := directory ++ [name]
    let target := directory ++ [newName]
    checkLength (path.withName newName)
    match tree.at? source with
    | none => .error .missing
    | some moved =>
      if nameLimit < newName.utf8ByteSize then
        .error .nameTooLong
      else if source = target then
        .ok tree
      else
        match tree.at? target with
        | none => .ok (tree.relocate source target)
        | some replaced =>
          tree.mayReplace target moved replaced
          .ok ((tree.eraseAt target).relocate source target)

/-- Take away the file or the link that a path names. -/
def remove (tree : FileTree) (path : Path) : Except Obstacle FileTree := do
  match ← tree.slot path with
  | .nameless => .error .isDirectory
  | .named directory name =>
    match tree.at? (directory ++ [name]) with
    | none => .error .missing
    | some .directory => .error .isDirectory
    | some _ => .ok (tree.eraseAt (directory ++ [name]))

end FileTree
end IconPress
