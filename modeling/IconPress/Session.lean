import IconPress.Icon.Compile
import IconPress.Publish

/-!
# A run of the program

A run reads a sheet, compiles it and publishes the document.  Nothing is changed before the
document is complete, so a faulty sheet leaves the files as they are.
-/

namespace IconPress

variable {m : Type → Type} [Monad m] [Host m]

/-- The text of a file, with one spelling for the end of a line. -/
def textOfBytes (path : Path) (bytes : List UInt8) : Except Failure String :=
  match Text.Utf8.decode bytes with
  | .ok chars => .ok (String.ofList (Text.unifyNewlines chars))
  | .error flaw => .error (.notText path flaw)

/--
The sheet that a text from a path makes, its size taken from its header.  A size that could be read
there is never too large to be written.
-/
def Sheet.ofText (path : Path) (text : String) : Traced Sheet := do
  let size ← scanSize text
  return ⟨text, size, path.text⟩

/-- Read the sheet that the settings name. -/
def readSheet (settings : Settings) : ExceptT Failure m Sheet := do
  let path := Path.parse settings.inputPath
  let bytes ← Host.require (.unreadable path) (Host.read path)
  let text ← textOfBytes path bytes
  Host.replay (Sheet.ofText path text)

/-- Read, compile and publish; `obstacle` is what keeps previews from being drawn, if anything. -/
def produce (settings : Settings) (obstacle : Option String) (now : Instant) :
    ExceptT Failure m Document := do
  let sheet ← readSheet settings
  Host.announce .info .pipeline s!"Icon size: {sheet.size}"
  let document ← Host.replay (compile settings obstacle sheet)
  let _ ← publish document now
  return document

end IconPress
