import IconPress.Icon.Document
import IconPress.Icon.Header

/-!
# Compiling a sheet

A sheet becomes a document: its blocks are read as pictures, the declared number of icons is
compared with theirs, and every picture is packed and drawn.

Main definitions:

- `Sheet`: a text with the size of its icons.
- `compile`: the document of a sheet.
-/

namespace IconPress

/-- A sheet of icons: its text, the size of the icons and a name for messages. -/
structure Sheet where
  text : String
  size : Int
  source : String
deriving DecidableEq, Repr

/-- The name of a sheet that is not read from a file. -/
def unknownSource : String :=
  "<unknown>"

/-- Note the make-up of the bytes, whose numbers must not be too large to be written. -/
def noteLayout (layout : Layout) : Traced Unit :=
  if Text.Numeral.fits layout.padding then
    Traced.note .info .pipeline
      s!"Pad zero: {layout.padding}; Data width in byte: {layout.width}"
  else
    Traced.fail .numberTooLarge

/-- Compare the declared number of icons, if there is one, with the number found. -/
def checkCount (sheet : Sheet) (found : Nat) : Except Failure Unit := do
  match ← scanCount sheet.text with
  | none => .ok ()
  | some declared =>
    if declared = found then .ok () else .error (.iconCount sheet.source declared found)

/-- The icon of a picture of a sheet, which is named by the number of its block. -/
def makeIcon (settings : Settings) (obstacle : Option String) (size : Int) (glyph : Glyph) :
    Traced Icon := do
  let packed ← packCounted glyph size
  let comment ← preview settings obstacle size glyph
  return ⟨s!"ICON_{glyph.index}", s!"icon_{glyph.index}", comment, packed⟩

/--
The document of a sheet; `obstacle` is what keeps previews from being drawn, if anything.  The size
is shown by the last note and by the document, so that there is none for a size that is too large.
-/
def compile (settings : Settings) (obstacle : Option String) (sheet : Sheet) :
    Traced Document := do
  let size := sheet.size
  noteLayout (Layout.ofSize size)
  let glyphs ← extractGlyphs settings sheet.text size
  Traced.quiet (checkCount sheet glyphs.length)
  let icons ← glyphs.mapM (makeIcon settings obstacle size)
  Traced.quiet (checkNumber size)
  Traced.note .info .pipeline
    s!"Compiled {icons.length} {size}x{size} icon(s) from {sheet.source}"
  return ⟨outputPath settings size, structName size, documentText settings size icons, icons⟩

end IconPress
