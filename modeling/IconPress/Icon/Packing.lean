import IconPress.Icon.Glyph

/-!
# Packing rows into bytes

Every row becomes one or more bytes, written as binary literals.  A row narrower than a byte is
filled up with zeros at its right end; a wider one is cut into bytes, which has to leave nothing
over.

Sizes, widths and the numbers of icons are any integers.  A message that shows one is written only
if the number is not too large for that, and otherwise packing ends with this failure instead.
Counts of rows, pixels and bytes are never that large.

Main definitions:

- `Layout.ofSize`: how many pixels and how many filling zeros a byte holds.
- `packRow`: the bytes of one row.
- `packGlyph`: the bytes of a picture with any number.
- `packCounted`: the bytes of a picture that bears the number of a block.
-/

namespace IconPress

/-- How a byte is made up: pixels from the left, then zeros. -/
structure Layout where
  width : Int
  padding : Int
deriving DecidableEq, Repr

/-- The number of binary digits of a byte. -/
def byteBits : Int :=
  8

/-- The make-up of bytes for icons of a size. -/
def Layout.ofSize (size : Int) : Layout :=
  ⟨min byteBits size, max 0 (byteBits - size)⟩

/-- One byte as a binary literal. -/
def byteLiteral (padding : Int) (bits : List Char) : String :=
  String.ofList ('0' :: 'b' :: bits ++ List.replicate padding.toNat '0')

/-- Whether a row of so many pixels can be cut into pieces of a width. -/
def isDivisible (length : Nat) (width : Int) : Bool :=
  0 < width && length % width.toNat == 0

/-- The bytes of a row, if it can be cut. -/
def packRow? (layout : Layout) (bits : List Char) : Option (List String) :=
  if isDivisible bits.length layout.width then
    let width := layout.width.toNat
    some ((slices width (bits.length / width) bits).map (byteLiteral layout.padding))
  else
    none

/-- The bytes of a row. -/
def packRow (layout : Layout) (bits : List Char) : Except Failure (List String) :=
  match packRow? layout bits with
  | some bytes => .ok bytes
  | none => .error (.showing [layout.width] (.rowSplit none bits.length layout.width))

/-- The bytes of a row of a picture, which has to be as long as the picture is wide. -/
def packNumberedRow (index size : Int) (row : List Char × Nat) : Except Failure (List String) :=
  let layout := Layout.ofSize size
  if (row.1.length : Int) ≠ size then
    .error (.showing [index, size] (.rowLength index row.2 row.1.length size))
  else
    match packRow? layout row.1 with
    | some bytes => .ok bytes
    | none =>
      .error (.showing [index] (.rowSplit (some (index, row.2)) row.1.length layout.width))

/-- The bytes of a picture, row by row. -/
def packRows (glyph : Glyph) (size : Int) : Except Failure (List String) := do
  let rows ← glyph.bits.zipIdx.mapM (packNumberedRow glyph.index size)
  return rows.flatten

/-- Note how many bytes a picture has become. -/
def notePacked (glyph : Glyph) (bytes : List String) : Traced Unit :=
  Traced.note .debug .packer s!"Packed icon #{glyph.index} into {bytes.length} byte(s)"

/-- The bytes of a picture, noted when it can be packed; it may have any number. -/
def packGlyph (glyph : Glyph) (size : Int) : Traced (List String) := do
  let bytes ← Traced.quiet (packRows glyph size)
  Traced.quiet (checkNumber glyph.index)
  notePacked glyph bytes
  return bytes

/--
The bytes of a picture of a sheet, which bears the number of its block.  No text has so many blocks
that such a number is too large to be written, and up to there this is `packGlyph`.
-/
def packCounted (glyph : Glyph) (size : Int) : Traced (List String) := do
  let bytes ← Traced.quiet (packRows glyph size)
  notePacked glyph bytes
  return bytes

end IconPress
