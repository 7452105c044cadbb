import IconPress.Icon.Packing

/-!
# Previews

A picture drawn with characters inside a comment.  The frame is as wide as the bytes of a row: the
zeros that fill a byte are drawn as blank cells, on both sides.

Main definitions:

- `indent`: the space in front of a line.
- `drawGlyph`: the lines of a drawing.
- `preview`: the drawing of an icon, or a plain remark where drawing fails.
-/

namespace IconPress

/-- The space in front of a line at a level of nesting. -/
def indent (level : Int) : String :=
  String.ofList (List.replicate (4 * level).toNat ' ')

/-- A character repeated; a negative count gives none. -/
def repeated (c : Char) (count : Int) : String :=
  String.ofList (List.replicate count.toNat c)

/-- How a pixel is drawn. -/
def Settings.cell (settings : Settings) (pixel : Bool) : Char :=
  if pixel then settings.markerChar else settings.blankChar

/-- One row of a drawing between its margins. -/
def drawRow (settings : Settings) (padding level : Int) (row : List Bool) : String :=
  let side := repeated settings.blankChar padding
  let cells := String.ofList (row.map settings.cell)
  indent level ++ " *" ++ side ++ cells ++ side ++ settings.borderChar.toString

/-- The lines of a drawing: the rows between two borders that open and close a comment. -/
def drawGlyph (settings : Settings) (glyph : Glyph) (size padding level : Int) : List String :=
  let border := repeated settings.borderChar (size + padding * 2 + 1)
  [indent level ++ "/*" ++ border] ++ glyph.rows.map (drawRow settings padding level) ++
    [indent level ++ " " ++ border ++ "*/"]

/-- The level of nesting of the icons in a document. -/
def iconLevel : Int :=
  2

/--
The drawing of an icon for a document.  Drawing is no reason to fail: `obstacle` is what keeps the
drawing from being made, if something does, and a remark takes its place then.
-/
def preview (settings : Settings) (obstacle : Option String) (size : Int) (glyph : Glyph) :
    Traced (List String) :=
  match obstacle with
  | none => return drawGlyph settings glyph size (Layout.ofSize size).padding iconLevel
  | some reason => do
    Traced.note .warning .pipeline
      s!"Could not render preview for icon #{glyph.index}: {reason}"
    return [indent iconLevel ++ s!"// icon #{glyph.index}"]

end IconPress
