import IconPress.Files.Archive
import IconPress.Files.Host
import IconPress.Icon.Document

/-!
# Publishing a document

A document is written to its path in two steps.  First what is there gets an archive name; then
the file is made anew.  The second step begins only after the first one has succeeded, nothing is
ever overwritten, and a file that could not be written whole is taken away again.

Main definitions:

- `setAside`: the first step.
- `writeText`: the second step.
- `publish`: both.
-/

namespace IconPress

variable {m : Type → Type} [Monad m] [Host m]

/-- Give what stands at a path its archive name, which nothing may bear; the archive, if any. -/
def setAside (path : Path) (now : Instant) : ExceptT Failure m (Option Path) := do
  if ← Host.require .disk (Host.present path) then
    let newName ← path.archiveName now
    let archive := path.withName newName
    if ← Host.require .disk (Host.present archive) then
      throw (.archiveTaken archive)
    Host.announce .info .emitter
      s!"Icons with same size already exists. Renaming old file to {newName}..."
    Host.require (.notArchived path) (Host.rename path newName)
    return some archive
  else
    return none

/-- Take away a file that could not be written whole; if that fails too, it is noted. -/
def discard (path : Path) : ExceptT Failure m Unit := do
  match ← ExceptT.lift (Host.remove path) with
  | .ok () => pure ()
  | .error cause =>
    Host.announce .warning .emitter
      s!"Could not remove partially written {path.text}: {cause.message}"

/-- Make the file of a path with the directories above it. -/
def writeText (path : Path) (text : String) (archive : Option Path) : ExceptT Failure m Unit := do
  let failed := fun cause => Failure.notWritten path cause archive
  Host.require failed (Host.ensureDirectory path.parent)
  match ← ExceptT.lift (Host.writeNew path text) with
  | .complete => pure ()
  | .refused cause => Host.giveUp failed cause
  | .cutShort cause => do
    discard path
    Host.giveUp failed cause

/-- Write a document; the result is the archive that holds what was there before. -/
def publish (document : Document) (now : Instant) : ExceptT Failure m (Option Path) := do
  let archive ← setAside document.path now
  writeText document.path document.text archive
  Host.announce .info .emitter
    s!"Wrote {document.icons.length} icon(s) to {document.path.text}"
  return archive

end IconPress
