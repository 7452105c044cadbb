import IconPress.Traced

/-!
# Hosts

What the program asks of the machine that it runs on: a handful of file operations and a place for
its records.  The program is written once over any host.

Main definitions:

- `Host`: the operations.
- `Host.ensureDirectory`: a directory with all the directories above it.
- `Host.replay`: a traced computation on a host.
-/

namespace IconPress

/-- How the making of a file went. -/
inductive Creation where
  /-- The file holds the text. -/
  | complete
  /-- There is no new file. -/
  | refused (cause : DiskError)
  /-- There is a new file, but it does not hold the text. -/
  | cutShort (cause : DiskError)
deriving DecidableEq, Repr

/-- The machine that the program runs on. -/
class Host (m : Type → Type) where
  /-- Note a record. -/
  note : Record → m Unit
  /-- The bytes of a file. -/
  read : Path → m (Except DiskError (List UInt8))
  /-- Whether a path leads to something, links followed. -/
  present : Path → m (Except DiskError Bool)
  /-- Whether a path leads to a directory, links followed. -/
  isDirectory : Path → m (Except DiskError Bool)
  /-- Make a directory in a directory that is there. -/
  makeDirectory : Path → m (Except DiskError Unit)
  /-- Rename what a path names within its directory. -/
  rename : Path → String → m (Except DiskError Unit)
  /-- Make a file that holds a text, where nothing is. -/
  writeNew : Path → String → m Creation
  /-- Take away a file. -/
  remove : Path → m (Except DiskError Unit)

namespace Host

variable {m : Type → Type} [Monad m] [Host m]

/-- A directory that cannot be made is good enough if it is there already. -/
def acceptDirectory (path : Path) (cause : DiskError) : m (Except DiskError Unit) := do
  if cause = .nullInPath then
    return .error cause
  else
    match ← Host.isDirectory path with
    | .error other => return .error other
    | .ok true => return .ok ()
    | .ok false => return .error cause

/-- Make a directory, unless it is there. -/
def makeMissing (path : Path) : m (Except DiskError Unit) := do
  match ← Host.makeDirectory path with
  | .ok () => return .ok ()
  | .error cause =>
    if cause.isMissing then return .error cause else acceptDirectory path cause

/--
Make a directory whose parts are given from the last one to the first one, after the directories
above it where those are missing.
-/
def ensureParts (anchor : Anchor) : List String → m (Except DiskError Unit)
  | [] => makeMissing ⟨anchor, []⟩
  | part :: above => do
    let path : Path := ⟨anchor, (part :: above).reverse⟩
    match ← Host.makeDirectory path with
    | .ok () => return .ok ()
    | .error cause =>
      if cause.isMissing then
        match ← ensureParts anchor above with
        | .error other => return .error other
        | .ok () => makeMissing path
      else
        acceptDirectory path cause

/-- Make a directory and all directories above it, as far as they are not there. -/
def ensureDirectory (path : Path) : m (Except DiskError Unit) :=
  ensureParts path.anchor path.parts.reverse

/-- Note a record in a run that may fail. -/
def announce (level : Level) (part : Part) (message : String) : ExceptT Failure m Unit :=
  ExceptT.lift (Host.note ⟨level, part, message⟩)

/-- Note records one after another. -/
def noteAll : List Record → m Unit
  | [] => pure ()
  | record :: rest => do
    Host.note record
    noteAll rest

/-- End with a failed file operation, in a way that the caller says. -/
def giveUp {α : Type} (wrap : DiskError → Failure) (cause : DiskError) : ExceptT Failure m α :=
  if cause = .nullInPath then throw (.disk .nullInPath) else throw (wrap cause)

/-- The value of a file operation, or the end of the run if it fails. -/
def require {α : Type} (wrap : DiskError → Failure) (operation : m (Except DiskError α)) :
    ExceptT Failure m α := do
  match ← ExceptT.lift operation with
  | .ok value => pure value
  | .error cause => giveUp wrap cause

/-- Run a traced computation: its records are noted, then it ends as it ends. -/
def replay {α : Type} (traced : Traced α) : ExceptT Failure m α := do
  ExceptT.lift (noteAll traced.journal)
  match traced.outcome with
  | .ok value => pure value
  | .error failure => throw failure

end Host
end IconPress
