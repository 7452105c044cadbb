import IconPress.Icon.Compile
import IconPress.Proofs.Numerals
import IconPress.Proofs.Packing

/-!
# What a compiled document is made of

A sheet compiles when each of its stages does.  This module names what the stages leave behind:
the blocks of the sheet, their pictures and the icons of the document, in the same order.

Main definitions:

- `IconOf`: an icon shows the pixels of a block.
- `previewLines`: the comment of an icon.

Main results:

- `decode_eq_ok`: the pixels of a picture are those that the literals of its block stand for.
- `packCounted_of_decodeBlocks`: the pictures of a sheet are packed as by themselves.
- `document_of_compile`: a document is made for a size that may be written.
- `compile_eq_ok`: the icons of a document show the blocks of its sheet.
-/

namespace IconPress

/-! ## Pictures -/

/-- A literal that can be read stands for the pixel that is written so. -/
theorem readPixel_eq_ok {settings : Settings} {icon : Option Int} {token : List Char}
    {pixel : Bool} (hdiffer : settings.opaquePixel ≠ settings.clearPixel)
    (h : readPixel settings icon token = .ok pixel) :
    (pixel = true ↔ token = settings.opaquePixel.toList) ∧
      (pixel = false ↔ token = settings.clearPixel.toList) := by
  have hlists : settings.opaquePixel.toList ≠ settings.clearPixel.toList :=
    fun heq => hdiffer (String.toList_inj.1 heq)
  unfold readPixel at h
  simp only at h
  split at h
  · rename_i hopaque
    cases h
    have htoken : token = settings.opaquePixel.toList := by rw [← hopaque, String.toList_ofList]
    simp [htoken, hlists]
  · split at h
    · rename_i hclear
      cases h
      have htoken : token = settings.clearPixel.toList := by rw [← hclear, String.toList_ofList]
      simp [htoken, Ne.symm hlists]
    · simp at h

/-- The pixels that the literals of a body stand for. -/
def PixelsOf (settings : Settings) (index : Int) (body : String) (pixels : List Bool) : Prop :=
  List.Forall₂ (fun token pixel => readPixel settings (some index) token = .ok pixel)
    (splitTokens body.toList) pixels

/-- A picture that can be read holds the pixels of its block, as many as its size asks for. -/
theorem decode_eq_ok {settings : Settings} {index size line : Int} {body : String} {glyph : Glyph}
    (hsize : 0 ≤ size) (h : Glyph.decode settings index size line body = .ok glyph) :
    ∃ pixels, PixelsOf settings index body pixels ∧
      pixels.length = size.toNat * size.toNat ∧ glyph.index = index ∧
      glyph.rows.flatten = pixels := by
  rcases bind_eq_ok_iff.1 h with ⟨pixels, hpixels, h⟩
  split at h
  · rename_i hcount
    have hlength : pixels.length = size.toNat * size.toNat := by
      rw [← Int.toNat_natCast pixels.length, hcount, Int.toNat_mul hsize hsize]
    cases h
    refine ⟨pixels, mapM_eq_ok_iff.1 hpixels, hlength, rfl, ?_⟩
    rw [flatten_slices, ← hlength, List.take_length]
  · split at h <;> simp at h

/-- The pictures of blocks bear the numbers of these. -/
theorem index_of_decodeBlocks {settings : Settings} {size : Int} {blocks : List Block}
    {glyphs : List Glyph} {glyph : Glyph} (h : decodeBlocks settings size blocks = .ok glyphs)
    (hglyph : glyph ∈ glyphs) : ∃ i < blocks.length, glyph.index = i := by
  rcases List.getElem?_of_mem hglyph with ⟨i, hi⟩
  rcases getElem?_of_forall₂ (mapM_eq_ok_iff.1 h).flip hi with ⟨⟨block, number⟩, hblock, hdecode⟩
  have hnumber := List.mem_zipIdx' (List.mem_of_getElem? hblock)
  rcases bind_eq_ok_iff.1 hdecode with ⟨pixels, -, hend⟩
  split at hend
  · cases hend
    exact ⟨number, hnumber.1, rfl⟩
  · split at hend <;> simp at hend

/-! ## Icons -/

/-- A picture of a sheet ends packed as its rows do. -/
@[simp]
theorem outcome_packCounted (glyph : Glyph) (size : Int) :
    (packCounted glyph size).outcome = packRows glyph size := by
  simp only [packCounted, notePacked, Traced.outcome_bind, Traced.outcome_quiet,
    Traced.outcome_note, Traced.outcome_pure]
  cases packRows glyph size <;> rfl

/-- A picture whose number may be written is packed as it is by itself. -/
theorem packCounted_eq_packGlyph {glyph : Glyph} (size : Int)
    (hindex : Text.Numeral.fits glyph.index = true) :
    packCounted glyph size = packGlyph glyph size := by
  have hnumber : checkNumber glyph.index = .ok () := checkNumber_eq_ok_iff.2 hindex
  rw [packGlyph, hnumber]
  rfl

/-- The pictures of a sheet are packed as by themselves, up to a number of blocks beyond reach. -/
theorem packCounted_of_decodeBlocks {settings : Settings} {size : Int} {blocks : List Block}
    {glyphs : List Glyph} (hcount : blocks.length ≤ 10 ^ Text.Numeral.digitLimit)
    (h : decodeBlocks settings size blocks = .ok glyphs) :
    ∀ glyph ∈ glyphs, packCounted glyph size = packGlyph glyph size := by
  intro glyph hglyph
  rcases index_of_decodeBlocks h hglyph with ⟨i, hi, hindex⟩
  apply packCounted_eq_packGlyph
  rw [hindex, Text.Numeral.fits_iff, Int.natAbs_natCast]
  exact Nat.lt_of_lt_of_le hi hcount

/-- A natural number is written alike as an integer. -/
theorem repr_natCast (n : Nat) : (n : Int).repr = n.repr := by
  rw [Int.repr_eq_if, if_pos (Int.natCast_nonneg n), Int.toNat_natCast]

/-- The comment of an icon: its drawing, or a remark where drawing fails. -/
def previewLines (settings : Settings) (obstacle : Option String) (size : Int) (glyph : Glyph) :
    List String :=
  match obstacle with
  | none => drawGlyph settings glyph size (Layout.ofSize size).padding iconLevel
  | some _ => [indent iconLevel ++ s!"// icon #{glyph.index}"]

@[simp]
theorem outcome_preview (settings : Settings) (obstacle : Option String) (size : Int)
    (glyph : Glyph) :
    (preview settings obstacle size glyph).outcome =
      .ok (previewLines settings obstacle size glyph) := by
  cases obstacle <;> rfl

/-- An icon with a number shows the pixels of a block. -/
structure IconOf (settings : Settings) (obstacle : Option String) (size : Int)
    (numbered : Block × Nat) (icon : Icon) : Prop where
  constName_eq : icon.constName = "ICON_" ++ toString numbered.2
  methodName_eq : icon.methodName = "icon_" ++ toString numbered.2
  comment_eq : ∃ glyph : Glyph, glyph.index = numbered.2 ∧
    icon.comment = previewLines settings obstacle size glyph
  packed_eq : ∃ pixels, PixelsOf settings numbered.2 numbered.1.body pixels ∧
    pixels.length = size.toNat * size.toNat ∧
    Chunks (Layout.ofSize size) (pixels.map Glyph.bit) icon.packed

/-- An icon that can be made of a picture that can be read shows the pixels of its block. -/
theorem makeIcon_eq_ok {settings : Settings} {obstacle : Option String} {size : Int}
    {numbered : Block × Nat} {glyph : Glyph} {icon : Icon} (hsize : 0 ≤ size)
    (hglyph : Glyph.decode settings numbered.2 size numbered.1.position.line numbered.1.body =
      .ok glyph)
    (h : (makeIcon settings obstacle size glyph).outcome = .ok icon) :
    IconOf settings obstacle size numbered icon := by
  rcases decode_eq_ok hsize hglyph with ⟨pixels, hpixels, hlength, hindex, hrows⟩
  simp only [makeIcon, outcome_packCounted, Traced.outcome_bind, Traced.outcome_pure,
    outcome_preview] at h
  rcases bind_eq_ok_iff.1 h with ⟨bytes, hbytes, h⟩
  cases h
  refine ⟨?_, ?_, ⟨glyph, hindex, rfl⟩, pixels, hpixels, hlength, ?_⟩
  · rw [hindex]
    exact congrArg ("ICON_" ++ ·) (repr_natCast numbered.2)
  · rw [hindex]
    exact congrArg ("icon_" ++ ·) (repr_natCast numbered.2)
  · rw [← hrows, ← glyph.flatten_bits]
    exact packRows_eq_ok hbytes

/-! ## Documents -/

/-- A document is made of icons, for a size that may be written. -/
theorem document_of_compile {settings : Settings} {obstacle : Option String} {sheet : Sheet}
    {document : Document} (h : (compile settings obstacle sheet).outcome = .ok document) :
    Text.Numeral.fits sheet.size = true ∧
      ∃ icons, document = ⟨outputPath settings sheet.size, structName sheet.size,
        documentText settings sheet.size icons, icons⟩ := by
  simp only [compile, Traced.outcome_bind, Traced.outcome_quiet, Traced.outcome_note,
    Traced.outcome_pure] at h
  rcases bind_eq_ok_iff.1 h with ⟨_, -, h⟩
  rcases bind_eq_ok_iff.1 h with ⟨_, -, h⟩
  rcases bind_eq_ok_iff.1 h with ⟨_, -, h⟩
  rcases bind_eq_ok_iff.1 h with ⟨icons, -, h⟩
  rcases bind_eq_ok_iff.1 h with ⟨_, hsize, h⟩
  cases h
  exact ⟨checkNumber_eq_ok_iff.1 hsize, icons, rfl⟩

/-- The stages behind a document: its icons show the blocks of the sheet, in order. -/
theorem compile_eq_ok {settings : Settings} {obstacle : Option String} {sheet : Sheet}
    {document : Document} (hsize : 0 ≤ sheet.size)
    (h : (compile settings obstacle sheet).outcome = .ok document) :
    ∃ blocks icons, innermostBlocks sheet.text = .ok blocks ∧
      List.Forall₂ (IconOf settings obstacle sheet.size) blocks.zipIdx icons ∧
      document = ⟨outputPath settings sheet.size, structName sheet.size,
        documentText settings sheet.size icons, icons⟩ := by
  simp only [compile, extractGlyphs, Traced.outcome_bind, Traced.outcome_quiet,
    Traced.outcome_note, Traced.outcome_pure, Traced.outcome_mapM] at h
  rcases bind_eq_ok_iff.1 h with ⟨_, _, h⟩
  rcases bind_eq_ok_iff.1 h with ⟨glyphs, hglyphs, h⟩
  rcases bind_eq_ok_iff.1 h with ⟨_, _, h⟩
  rcases bind_eq_ok_iff.1 h with ⟨icons, hicons, h⟩
  rcases bind_eq_ok_iff.1 h with ⟨_, _, h⟩
  rcases bind_eq_ok_iff.1 hglyphs with ⟨blocks, hblocks, hglyphs⟩
  rcases bind_eq_ok_iff.1 hglyphs with ⟨decoded, hdecoded, hglyphs⟩
  cases hglyphs
  cases h
  refine ⟨blocks, icons, hblocks, ?_, rfl⟩
  have hpictures := mapM_eq_ok_iff.1 hdecoded
  have hshown := mapM_eq_ok_iff.1 hicons
  refine forall₂_trans ?_ hpictures hshown
  intro numbered glyph icon hglyph hicon
  exact makeIcon_eq_ok hsize hglyph hicon

end IconPress
