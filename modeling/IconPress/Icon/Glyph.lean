import IconPress.Icon.Block
import IconPress.Settings
import IconPress.Text.Blank
import IconPress.Text.Pieces

/-!
# Glyphs

A glyph is the picture of an icon, row by row.  It is read from the block of a sheet, where every
pixel is one of two literals and commas stand between them.

Main definitions:

- `Glyph`: a picture with its number.
- `splitTokens`: the literals of a block.
- `Glyph.decode`: the picture that a block holds.
- `extractGlyphs`: the pictures of all innermost blocks of a text.
-/

namespace IconPress

/-- A picture: the number of its icon and its rows, an inked pixel being `true`. -/
structure Glyph where
  index : Int
  rows : List (List Bool)
deriving DecidableEq, Repr

namespace Glyph

/-- The number of rows. -/
def size (glyph : Glyph) : Nat :=
  glyph.rows.length

/-- The digit that stands for a pixel. -/
def bit (pixel : Bool) : Char :=
  if pixel then '1' else '0'

/-- The rows as binary digits. -/
def bits (glyph : Glyph) : List (List Char) :=
  glyph.rows.map fun row => row.map bit

end Glyph

/--
The literals of a block: what commas separate once all blanks are gone.  One comma may follow the
last literal.
-/
def splitTokens (body : List Char) : List (List Char) :=
  let compact := Text.squeeze body
  if compact.isEmpty then
    []
  else
    let tokens := Text.pieces ',' compact
    if 1 < tokens.length && tokens.getLast? = some [] then tokens.dropLast else tokens

/-- Commas between tokens part them again, with any blanks, if the last token is not empty. -/
theorem splitTokens_of_squeeze_eq_intercalate {body : List Char} {tokens : List (List Char)}
    (hbody : Text.squeeze body = [','].intercalate tokens) (hsome : tokens ≠ [])
    (hcommas : ∀ token ∈ tokens, ',' ∉ token) (hlast : tokens.getLast? ≠ some []) :
    splitTokens body = tokens := by
  have hpieces := Text.pieces_intercalate hsome hcommas
  have hcompact : ([','].intercalate tokens).isEmpty = false := by
    rw [List.isEmpty_eq_false_iff]
    intro hempty
    rw [hempty, Text.pieces_nil] at hpieces
    rw [← hpieces] at hlast
    exact hlast rfl
  unfold splitTokens
  simp [hbody, hcompact, hpieces, hlast]

/-- The pixel that a literal stands for. -/
def readPixel (settings : Settings) (icon : Option Int) (token : List Char) :
    Except Failure Bool :=
  let literal := String.ofList token
  if literal = settings.opaquePixel then
    .ok true
  else if literal = settings.clearPixel then
    .ok false
  else
    .error (.unknownPixel literal settings.opaquePixel settings.clearPixel icon)

/-- The first `count` pieces of `width` elements each. -/
def slices {α : Type} (width : Nat) : Nat → List α → List (List α)
  | 0, _ => []
  | count + 1, elements => elements.take width :: slices width count (elements.drop width)

@[simp]
theorem length_slices {α : Type} (width count : Nat) (elements : List α) :
    (slices width count elements).length = count := by
  induction count generalizing elements with
  | zero => rfl
  | succ count ih => simp [slices, ih]

/-- Together the pieces are the elements that they are cut from. -/
theorem flatten_slices {α : Type} (width count : Nat) (elements : List α) :
    (slices width count elements).flatten = elements.take (count * width) := by
  induction count generalizing elements with
  | zero => simp [slices]
  | succ count ih =>
      simp only [slices, List.flatten_cons, ih]
      rw [Nat.succ_mul, Nat.add_comm, List.take_add]

/--
The picture of an icon of a given size that begins on a line with the given body.  The number and
the line are those of a block and can always be written; the number of pixels may be too large.
-/
def Glyph.decode (settings : Settings) (index size line : Int) (body : String) :
    Except Failure Glyph := do
  let pixels ← (splitTokens body.toList).mapM (readPixel settings (some index))
  if (pixels.length : Int) = size * size then
    .ok ⟨index, slices size.toNat size.toNat pixels⟩
  else if Text.Numeral.fits (size * size) then
    .error (.pixelCount index line pixels.length size)
  else
    .error .numberTooLarge

/-- Pixels that are as many as the size asks for make a picture. -/
theorem Glyph.decode_of_pixels {settings : Settings} {index size line : Int} {body : String}
    {pixels : List Bool}
    (hpixels : (splitTokens body.toList).mapM (readPixel settings (some index)) = .ok pixels)
    (hcount : (pixels.length : Int) = size * size) :
    Glyph.decode settings index size line body =
      .ok ⟨index, slices size.toNat size.toNat pixels⟩ := by
  unfold Glyph.decode
  rw [hpixels]
  exact if_pos hcount

/-- The pictures of blocks that are numbered from zero. -/
def decodeBlocks (settings : Settings) (size : Int) (blocks : List Block) :
    Except Failure (List Glyph) :=
  blocks.zipIdx.mapM fun numbered =>
    Glyph.decode settings numbered.2 size numbered.1.position.line numbered.1.body

/-- The pictures of all innermost blocks of a text, in order. -/
def extractGlyphs (settings : Settings) (text : String) (size : Int) : Traced (List Glyph) := do
  let blocks ← Traced.quiet (innermostBlocks text)
  let glyphs ← Traced.quiet (decodeBlocks settings size blocks)
  Traced.note .debug .extractor s!"Extracted {glyphs.length} glyph block(s)"
  return glyphs

end IconPress
