import IconPress.Proofs.Comments
import IconPress.Proofs.Unpacking
import IconPress.Proofs.Verdict

/-!
# Drawings agree with bytes

An icon of a document shows its picture twice: drawn in the comment, a character for each pixel,
and packed into bytes, a digit for each pixel.  The drawing has blanks on both sides of a row, the
bytes have zeros behind their digits, and wide rows are cut into several bytes.  This module says
which character stands for which digit.

Main results:

- `digit_of_packRows`: where the digit of a pixel is among the bytes.
- `exists_glyph_of_compile`: drawing and bytes of an icon come from the same picture.
- `drawing_shows_bytes`: the lines of the drawing, character by character.
-/

namespace IconPress

/-- What stands in the middle of a list stands behind its front. -/
theorem getElem?_middle {α : Type} {front middle back : List α} {k : Nat} (hk : k < middle.length) :
    (front ++ middle ++ back)[front.length + k]? = middle[k]? := by
  rw [List.append_assoc, List.getElem?_append_right (Nat.le_add_right _ _),
    Nat.add_sub_cancel_left, List.getElem?_append_left hk]

/-! ## The place of a digit -/

section Digits

variable {glyph : Glyph} {size : Int} {bytes : List String}

/-- The chunks of a row of so many pixels come one after another. -/
theorem chunk_place {size width row column : Nat} (hdivides : width ∣ size) :
    (row * (size / width) + column / width) * width + column % width = row * size + column := by
  rw [Nat.add_mul, Nat.mul_assoc, Nat.div_mul_cancel hdivides, Nat.add_assoc, Nat.div_add_mod']

/-- The digit of a pixel is in the chunk of its row that its column falls into. -/
theorem digit_of_packRows (hsize : 1 ≤ size) (hpackable : IsPackable size)
    (h : packRows glyph size = .ok bytes) {row : List Bool} {pixel : Bool} {r c : Nat}
    (hrow : glyph.rows[r]? = some row) (hpixel : row[c]? = some pixel) :
    ∃ byte, bytes[r * (size.toNat / min 8 size.toNat) + c / min 8 size.toNat]? = some byte ∧
      byte.toList[2 + c % min 8 size.toNat]? = some (Glyph.bit pixel) := by
  rcases exists_chunks_of_packRows hsize h with ⟨chunks, hdigits, hlengths, hbytes⟩
  have hwidths := length_of_mem_rows h
  have hcolumn : c < size.toNat :=
    hwidths row (List.mem_of_getElem? hrow) ▸ (List.getElem?_eq_some_iff.1 hpixel).1
  have hplace := @chunk_place _ _ r c (width_dvd_of_isPackable hpackable)
  have hwidth : c % min 8 size.toNat < min 8 size.toNat := Nat.mod_lt _ (by omega)
  generalize r * (size.toNat / min 8 size.toNat) + c / min 8 size.toNat = t at *
  generalize c % min 8 size.toNat = d at *
  have hdigit : chunks[t]?.bind (·[d]?) = some (Glyph.bit pixel) := by
    rw [← getElem?_flatten_of_width hlengths hwidth, hdigits, List.getElem?_map, hplace,
      getElem?_flatten_of_width hwidths hcolumn, hrow, Option.bind_some, hpixel]
    rfl
  rcases Option.bind_eq_some_iff.1 hdigit with ⟨chunk, hchunk, hd⟩
  have hbyte := congrArg (·[t]?) hbytes
  simp only [List.getElem?_map, hchunk, Option.map_some] at hbyte
  rcases Option.map_eq_some_iff.1 hbyte with ⟨byte, hbyte, hlist⟩
  refine ⟨byte, hbyte, ?_⟩
  rw [hlist]
  exact (getElem?_middle (List.getElem?_eq_some_iff.1 hd).1).trans hd

end Digits

/-! ## Icons of a document -/

/-- Drawing and bytes of an icon come from the same picture. -/
theorem exists_glyph_of_compile {settings : Settings} {obstacle : Option String} {sheet : Sheet}
    {document : Document} {icon : Icon} (hsize : 1 ≤ sheet.size)
    (h : (compile settings obstacle sheet).outcome = .ok document) (hicon : icon ∈ document.icons) :
    ∃ glyph : Glyph, glyph.IsSquare sheet.size ∧ packRows glyph sheet.size = .ok icon.packed ∧
      icon.comment = previewLines settings obstacle sheet.size glyph := by
  rcases (exists_compile_eq_ok_iff hsize).1 ⟨document, h⟩ with ⟨-, blocks, hflawless⟩
  rcases outcome_compile_of_pictured obstacle hsize hflawless.pictured with
    ⟨glyphs, -, hsquare, houtcome⟩
  rw [houtcome] at h
  rcases bind_eq_ok_iff.1 h with ⟨_, -, h⟩
  rcases bind_eq_ok_iff.1 h with ⟨icons, hicons, h⟩
  rcases bind_eq_ok_iff.1 h with ⟨_, -, h⟩
  cases h
  rcases List.getElem?_of_mem hicon with ⟨i, hi⟩
  rcases getElem?_of_forall₂ (mapM_eq_ok_iff.1 hicons).flip hi with ⟨glyph, hglyph, hmade⟩
  rw [outcome_makeIcon, map_eq_ok_iff] at hmade
  rcases hmade with ⟨packed, hpacked, rfl⟩
  exact ⟨glyph, (hsquare i glyph hglyph).2, hpacked, rfl⟩

/-- The lines of a drawing stand between its two borders. -/
theorem getElem?_drawGlyph {settings : Settings} {glyph : Glyph} {size padding level : Int}
    {row : List Bool} {r : Nat} (hrow : glyph.rows[r]? = some row) :
    (drawGlyph settings glyph size padding level)[r + 1]? =
      some (drawRow settings padding level row) := by
  have hbound := (List.getElem?_eq_some_iff.1 hrow).1
  rw [drawGlyph, List.append_assoc, List.singleton_append, List.getElem?_cons_succ,
    List.getElem?_append_left (by simpa using hbound), List.getElem?_map, hrow]
  rfl

section Drawing

variable {settings : Settings} {padding : Int} {row : List Bool}

/-- A row of a drawing in a document: its cells, and what the settings put around them. -/
theorem toList_drawRow_iconLevel (row : List Bool) :
    (drawRow settings padding iconLevel row).toList = List.replicate 8 ' ' ++ [' ', '*'] ++
      List.replicate padding.toNat settings.blankChar ++ row.map settings.cell ++
      List.replicate padding.toNat settings.blankChar ++ [settings.borderChar] := by
  have hindent : (indent iconLevel).toList = List.replicate 8 ' ' := by decide
  rw [toList_drawRow, hindent]
  simp

theorem length_drawRow (row : List Bool) :
    (drawRow settings padding iconLevel row).toList.length =
      11 + row.length + 2 * padding.toNat := by
  simp only [toList_drawRow_iconLevel, List.length_append, List.length_replicate, List.length_map,
    List.length_cons, List.length_nil]
  omega

/-- The cell of a pixel. -/
theorem getElem?_drawRow {pixel : Bool} {c : Nat} (hpixel : row[c]? = some pixel) :
    (drawRow settings padding iconLevel row).toList[10 + padding.toNat + c]? =
      some (settings.cell pixel) := by
  have hbound := (List.getElem?_eq_some_iff.1 hpixel).1
  have hfront : (List.replicate 8 ' ' ++ [' ', '*'] ++
      List.replicate padding.toNat settings.blankChar).length = 10 + padding.toNat := by
    simp only [List.length_append, List.length_replicate, List.length_cons, List.length_nil]
  rw [toList_drawRow_iconLevel, List.append_assoc _ _ [settings.borderChar], ← hfront,
    getElem?_middle (by simpa using hbound), List.getElem?_map, hpixel]
  rfl

end Drawing

/--
The drawing of an icon shows its bytes.  Between its two borders it has a line for each row, which
consists of the cells of the row and of characters that the settings determine; and each cell is
drawn with the marker or with the blank, as the digit of the pixel is one or zero.
-/
theorem drawing_shows_bytes {settings : Settings} {sheet : Sheet} {document : Document}
    {icon : Icon} (hsize : 1 ≤ sheet.size)
    (h : (compile settings none sheet).outcome = .ok document)
    (hicon : icon ∈ document.icons) :
    let size := sheet.size.toNat
    let width := (Layout.ofSize sheet.size).width.toNat
    let padding := (Layout.ofSize sheet.size).padding.toNat
    icon.comment.length = size + 2 ∧
    ∀ r < size, ∃ line cells, icon.comment[r + 1]? = some line ∧ cells.length = size ∧
      line.toList.length = 11 + size + 2 * padding ∧
      line.toList = List.replicate 8 ' ' ++ [' ', '*'] ++
        List.replicate padding settings.blankChar ++ cells ++
        List.replicate padding settings.blankChar ++ [settings.borderChar] ∧
      ∀ c < size, ∃ byte digit, icon.packed[r * (size / width) + c / width]? = some byte ∧
        byte.toList[2 + c % width]? = some digit ∧
        (digit = '1' ∧ line.toList[10 + padding + c]? = some settings.markerChar ∨
          digit = '0' ∧ line.toList[10 + padding + c]? = some settings.blankChar) := by
  intro size width padding
  rcases exists_glyph_of_compile hsize h hicon with ⟨glyph, hsquare, hpacked, hcomment⟩
  have hlines : icon.comment = drawGlyph settings glyph sheet.size
      (Layout.ofSize sheet.size).padding iconLevel := hcomment
  have hheight : glyph.rows.length = size := by
    have hrows := hsquare.height
    omega
  refine ⟨?_, fun r hr => ?_⟩
  · simp [hlines, drawGlyph, hheight]
  obtain ⟨row, hrow⟩ : ∃ row, glyph.rows[r]? = some row :=
    ⟨_, List.getElem?_eq_getElem (hheight.symm ▸ hr)⟩
  have hlength := length_of_mem_rows hpacked row (List.mem_of_getElem? hrow)
  refine ⟨drawRow settings (Layout.ofSize sheet.size).padding iconLevel row,
    row.map settings.cell, ?_, ?_, ?_, toList_drawRow_iconLevel row, fun c hc => ?_⟩
  · rw [hlines, getElem?_drawGlyph hrow]
  · rw [List.length_map, hlength]
  · rw [length_drawRow, hlength]
  obtain ⟨pixel, hpixel⟩ : ∃ pixel, row[c]? = some pixel :=
    ⟨_, List.getElem?_eq_getElem (hlength.symm ▸ hc)⟩
  have hfits := exists_packRows_eq_ok_iff.1 ⟨_, hpacked⟩ row (List.mem_of_getElem? hrow)
  have hwidth : width = min 8 size := by
    simp only [width, size, Layout.ofSize, byteBits]
    omega
  rcases digit_of_packRows hsize hfits.packable hpacked hrow hpixel with ⟨byte, hbyte, hdigit⟩
  rw [hwidth]
  refine ⟨byte, Glyph.bit pixel, hbyte, hdigit, ?_⟩
  rw [getElem?_drawRow hpixel]
  cases pixel
  · exact .inr ⟨rfl, rfl⟩
  · exact .inl ⟨rfl, rfl⟩

/-- Pixels that are written as digits. -/
def digitSettings : Settings :=
  { Settings.standard with opaquePixel := "1", clearPixel := "0" }

/-- A sheet with an icon of three rows. -/
def smallCross : Sheet :=
  ⟨"\x7b1,0,1, 0,1,0, 1,0,1\x7d", 3, unknownSource⟩

/-- The pixel in the middle is inked, in the drawing and in the second byte. -/
theorem drawing_shows_bytes_smallCross :
    ∃ document icon, (compile digitSettings none smallCross).outcome = .ok document ∧
      document.icons = [icon] ∧ icon.packed = ["0b10100000", "0b01000000", "0b10100000"] ∧
      ∃ line, icon.comment[2]? = some line ∧ line.toList[16]? = some '#' := by
  have hpacked : (compile digitSettings none smallCross).outcome.map
      (fun document => document.icons.map Icon.packed) =
        .ok [["0b10100000", "0b01000000", "0b10100000"]] := by decide +kernel
  rcases map_eq_ok_iff.1 hpacked with ⟨document, hdocument, hicons⟩
  rcases List.map_eq_singleton_iff.1 hicons with ⟨icon, hicon, hbytes⟩
  refine ⟨document, icon, hdocument, hicon, hbytes, ?_⟩
  have hshows := drawing_shows_bytes (by decide) hdocument (hicon ▸ List.mem_singleton_self icon)
  rcases hshows.2 1 (by decide) with ⟨line, -, hline, -, -, -, hcells⟩
  rcases hcells 1 (by decide) with ⟨byte, digit, hbyte, hdigit, hdrawn⟩
  rw [hbytes] at hbyte
  obtain rfl : byte = "0b01000000" := Option.some.inj (hbyte.symm.trans rfl)
  obtain rfl : digit = '1' := Option.some.inj (hdigit.symm.trans (by decide))
  exact ⟨line, hline, (hdrawn.resolve_right (by simp)).2⟩

end IconPress
