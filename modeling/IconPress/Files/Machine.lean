import IconPress.Files.FileTree.Change
import IconPress.Files.Host

/-!
# A machine in memory

A host whose files are a tree in memory and whose records are kept.  Operations can be made to
fail, to see what the program does then.

Main definitions:

- `Faults`: the operations that are made to fail.
- `Machine`: the tree, the faults and the records; the program runs on `StateM Machine`.
-/

namespace IconPress

/-- The operations that fail, each with the text of its failure. -/
structure Faults where
  /-- Previews cannot be drawn. -/
  preview : Option String
  /-- Files cannot be renamed. -/
  rename : Option String
  /-- Files cannot be made. -/
  create : Option String
  /-- Files that have just been made cannot be written to. -/
  write : Option String
  /-- Files cannot be taken away. -/
  remove : Option String
deriving DecidableEq, Repr

/-- Nothing fails. -/
def Faults.none : Faults :=
  ⟨.none, .none, .none, .none, .none⟩

/-- Files, faults and the records so far. -/
structure Machine where
  tree : FileTree
  faults : Faults
  journal : List Record
deriving DecidableEq, Repr

namespace Machine

/-- The result of looking at something. -/
def observe {α : Type} (path : Path) (result : Except Obstacle α) : Except DiskError α :=
  result.mapError fun obstacle => .refused obstacle path none

/-- Change the tree, unless something refuses. -/
def change (machine : Machine) (path : Path) (target : Option Path)
    (result : Except Obstacle FileTree) : Except DiskError Unit × Machine :=
  match result with
  | .ok tree => (.ok (), { machine with tree := tree })
  | .error obstacle => (.error (.refused obstacle path target), machine)

/-- Whether a path leads to something; nothing can have a name with a null character. -/
def present (machine : Machine) (path : Path) : Except DiskError Bool :=
  if path.hasNull then .ok false else observe path (machine.tree.present path)

/-- Whether a path leads to a directory. -/
def isDirectory (machine : Machine) (path : Path) : Except DiskError Bool :=
  if path.hasNull then .ok false else observe path (machine.tree.isDirectory path)

/-- The bytes of a file. -/
def read (machine : Machine) (path : Path) : Except DiskError (List UInt8) :=
  if path.hasNull then .error .nullInPath else observe path (machine.tree.read path)

/-- Make a directory. -/
def makeDirectory (machine : Machine) (path : Path) : Except DiskError Unit × Machine :=
  if path.hasNull then (.error .nullInPath, machine)
  else machine.change path none (machine.tree.makeDirectory path)

/-- Rename what a path names. -/
def rename (machine : Machine) (path : Path) (newName : String) :
    Except DiskError Unit × Machine :=
  match machine.faults.rename with
  | some reason => (.error (.reported reason), machine)
  | none =>
    let target := path.withName newName
    if path.hasNull || target.hasNull then (.error .nullInPath, machine)
    else machine.change path (some target) (machine.tree.rename path newName)

/-- Make a file; when writing fails, it stays empty. -/
def writeNew (machine : Machine) (path : Path) (text : String) : Creation × Machine :=
  match machine.faults.create with
  | some reason => (.refused (.reported reason), machine)
  | none =>
    if path.hasNull then
      (.refused .nullInPath, machine)
    else
      let bytes := match machine.faults.write with
        | some _ => []
        | none => Text.Utf8.encode text.toList
      match machine.tree.create path bytes with
      | .error obstacle => (.refused (.refused obstacle path none), machine)
      | .ok tree =>
        match machine.faults.write with
        | some reason => (.cutShort (.reported reason), { machine with tree := tree })
        | none => (.complete, { machine with tree := tree })

/-- Take away a file. -/
def remove (machine : Machine) (path : Path) : Except DiskError Unit × Machine :=
  match machine.faults.remove with
  | some reason => (.error (.reported reason), machine)
  | none =>
    if path.hasNull then (.error .nullInPath, machine)
    else machine.change path none (machine.tree.remove path)

instance : Host (StateM Machine) where
  note record := modify fun machine => { machine with journal := machine.journal ++ [record] }
  read path machine := (machine.read path, machine)
  present path machine := (machine.present path, machine)
  isDirectory path machine := (machine.isDirectory path, machine)
  makeDirectory path machine := machine.makeDirectory path
  rename path newName machine := machine.rename path newName
  writeNew path text machine := machine.writeNew path text
  remove path machine := machine.remove path

/-- Run a program on a machine. -/
def run {α : Type} (machine : Machine) (program : ExceptT Failure (StateM Machine) α) :
    Except Failure α × Machine :=
  program machine

end Machine
end IconPress
