import IconPress.Proofs.Packing

/-!
# Which blocks hold pictures

A block holds a picture of a size when its tokens are pixel literals and there are as many of them
as the size asks for.  This module says what is reported of a block that holds none, and of a list
of blocks: what is wrong with the first one of these.

Main definitions:

- `HoldsPicture`: a block that can be read.
- `BlockFault`: what is wrong with a block.

Main results:

- `exists_decode_eq_ok_iff`, `decode_eq_error_iff`: how the reading of a block ends.
- `decodeBlocks_of_holdPictures`, `decodeBlocks_eq_error_iff`: how the reading of all blocks ends.
-/

namespace IconPress

/-! ## Tokens -/

/-- A token is one of the two pixel literals. -/
def IsLiteral (settings : Settings) (token : List Char) : Prop :=
  String.ofList token = settings.opaquePixel ∨ String.ofList token = settings.clearPixel

instance (settings : Settings) (token : List Char) : Decidable (IsLiteral settings token) :=
  inferInstanceAs (Decidable (_ ∨ _))

section Token

variable {settings : Settings} {icon : Option Int} {token : List Char} {tokens : List (List Char)}
  {failure : Failure}

theorem exists_readPixel_eq_ok_iff :
    (∃ pixel, readPixel settings icon token = .ok pixel) ↔ IsLiteral settings token := by
  unfold readPixel IsLiteral
  dsimp only
  split
  · rename_i hinked
    simp [hinked]
  · rename_i hinked
    split
    · rename_i hclear
      simp only [Except.ok.injEq, exists_eq', hclear, or_true]
    · rename_i hclear
      simp [hinked, hclear]

/-- Any other token is named with the icon that it is found in. -/
theorem readPixel_eq_error_iff :
    readPixel settings icon token = .error failure ↔ ¬IsLiteral settings token ∧
      failure = .unknownPixel (String.ofList token) settings.opaquePixel settings.clearPixel
        icon := by
  unfold readPixel IsLiteral
  dsimp only
  split
  · rename_i hinked
    simp [hinked]
  · rename_i hinked
    split
    · rename_i hclear
      simp only [reduceCtorEq, hclear, or_true, not_true_eq_false, false_and]
    · rename_i hclear
      simp [hinked, hclear, eq_comm]

/-- Literals are all read, and there are as many pixels. -/
theorem mapM_readPixel_of_literals (hliterals : ∀ token ∈ tokens, IsLiteral settings token) :
    ∃ pixels, tokens.mapM (readPixel settings icon) = .ok pixels ∧
      pixels.length = tokens.length := by
  rcases exists_mapM_eq_ok fun token htoken =>
    exists_readPixel_eq_ok_iff.2 (hliterals token htoken) with ⟨pixels, hpixels⟩
  exact ⟨pixels, hpixels, (mapM_eq_ok_iff.1 hpixels).length_eq.symm⟩

/-- The first token that is no literal ends the reading. -/
theorem mapM_readPixel_eq_error_iff :
    tokens.mapM (readPixel settings icon) = .error failure ↔ ∃ place token,
      FirstAt tokens (IsLiteral settings) place token ∧ ¬IsLiteral settings token ∧
        failure = .unknownPixel (String.ofList token) settings.opaquePixel settings.clearPixel
          icon := by
  have hread : (fun token => ∃ pixel, readPixel settings icon token = .ok pixel) =
      IsLiteral settings := by
    funext token
    rw [exists_readPixel_eq_ok_iff]
  rw [mapM_eq_error_iff, hread]
  simp only [readPixel_eq_error_iff]

end Token

/-! ## Blocks -/

/-- The tokens of a block. -/
def Block.tokens (block : Block) : List (List Char) :=
  splitTokens block.body.toList

/-- A block holds a picture: literals only, and as many as a square of the size has pixels. -/
structure HoldsPicture (settings : Settings) (size : Int) (block : Block) : Prop where
  literals : ∀ token ∈ block.tokens, IsLiteral settings token
  amount : (block.tokens.length : Int) = size * size

instance (settings : Settings) (size : Int) (block : Block) :
    Decidable (HoldsPicture settings size block) :=
  decidable_of_iff
    ((∀ token ∈ block.tokens, IsLiteral settings token) ∧
      (block.tokens.length : Int) = size * size)
    ⟨fun h => ⟨h.1, h.2⟩, fun h => ⟨h.literals, h.amount⟩⟩

/--
What is wrong with a numbered block, and the class under which this is reported, if any: the first
token that is no literal, or else the number of the literals.  The number that there should be is
part of the message, unless it has too many digits.
-/
inductive BlockFault (settings : Settings) (size : Int) (index : Nat) (block : Block) :
    Option Failure.Kind → Failure → Prop where
  | token {place : Nat} {token : List Char}
      (hfirst : FirstAt block.tokens (IsLiteral settings) place token)
      (hother : ¬IsLiteral settings token) :
      BlockFault settings size index block (some .invalidPixelToken)
        (.unknownPixel (String.ofList token) settings.opaquePixel settings.clearPixel
          (some index))
  | amount (hliterals : ∀ token ∈ block.tokens, IsLiteral settings token)
      (hamount : (block.tokens.length : Int) ≠ size * size)
      (hfits : Text.Numeral.fits (size * size) = true) :
      BlockFault settings size index block (some .malformedGlyph)
        (.pixelCount index block.position.line block.tokens.length size)
  | unwritable (hliterals : ∀ token ∈ block.tokens, IsLiteral settings token)
      (hamount : (block.tokens.length : Int) ≠ size * size)
      (hlarge : Text.Numeral.fits (size * size) = false) :
      BlockFault settings size index block none .numberTooLarge

section Decode

variable {settings : Settings} {size : Int} {index : Nat} {block : Block}
  {kind : Option Failure.Kind} {failure : Failure}

theorem BlockFault.kind?_eq (h : BlockFault settings size index block kind failure) :
    failure.kind? = kind := by
  cases h <;> rfl

/-- The rows that pixels are cut into are as many and as long as the size says. -/
theorem isSquare_slices {pixels : List Bool} (hsize : 0 ≤ size)
    (hcount : (pixels.length : Int) = size * size) :
    (⟨index, slices size.toNat size.toNat pixels⟩ : Glyph).IsSquare size where
  height := by
    rw [length_slices, Int.toNat_of_nonneg hsize]
  width := by
    intro row hrow
    have hfit : size.toNat * size.toNat = pixels.length := by
      rw [← Int.toNat_natCast pixels.length, hcount, Int.toNat_mul hsize hsize]
    rw [length_of_mem_slices (Nat.le_of_eq hfit) hrow, Int.toNat_of_nonneg hsize]

/-- The picture of a block that holds one is square and has the number of the block. -/
theorem decode_of_holdsPicture (hsize : 0 ≤ size) (h : HoldsPicture settings size block) :
    ∃ glyph, Glyph.decode settings index size block.position.line block.body = .ok glyph ∧
      glyph.index = index ∧ glyph.IsSquare size := by
  obtain ⟨pixels, hpixels, hlength⟩ :=
    @mapM_readPixel_of_literals settings (some (index : Int)) _ h.literals
  have hcount : (pixels.length : Int) = size * size := by
    rw [hlength, h.amount]
  refine ⟨⟨index, slices size.toNat size.toNat pixels⟩, ?_, rfl, isSquare_slices hsize hcount⟩
  exact bind_eq_ok_iff.2 ⟨pixels, hpixels, if_pos hcount⟩

/-- What is reported of a block is what is wrong with it. -/
theorem decode_eq_error_iff :
    Glyph.decode settings index size block.position.line block.body = .error failure ↔
      ∃ kind, BlockFault settings size index block kind failure := by
  unfold Glyph.decode
  rw [bind_eq_error_iff, mapM_readPixel_eq_error_iff]
  constructor
  · rintro (⟨place, token, hfirst, hother, rfl⟩ | ⟨pixels, hpixels, hend⟩)
    · exact ⟨_, .token hfirst hother⟩
    · have hread := mapM_eq_ok_iff.1 hpixels
      have hlength : block.tokens.length = pixels.length := hread.length_eq
      have hliterals : ∀ token ∈ block.tokens, IsLiteral settings token := by
        intro token htoken
        rcases List.getElem?_of_mem htoken with ⟨i, hi⟩
        rcases getElem?_of_forall₂ hread hi with ⟨pixel, -, hpixel⟩
        exact exists_readPixel_eq_ok_iff.1 ⟨pixel, hpixel⟩
      rw [← hlength] at hend
      split at hend
      · simp at hend
      · rename_i hamount
        split at hend
        · rename_i hfits
          cases hend
          exact ⟨_, .amount hliterals hamount hfits⟩
        · rename_i hlarge
          cases hend
          exact ⟨_, .unwritable hliterals hamount (by simpa using hlarge)⟩
  · rintro ⟨kind, hfault⟩
    cases hfault with
    | @token place token hfirst hother => exact .inl ⟨place, token, hfirst, hother, rfl⟩
    | amount hliterals hamount hfits =>
        rcases mapM_readPixel_of_literals hliterals with ⟨pixels, hpixels, hlength⟩
        exact .inr ⟨pixels, hpixels, by rw [hlength]; simp [hamount, hfits]⟩
    | unwritable hliterals hamount hlarge =>
        rcases mapM_readPixel_of_literals hliterals with ⟨pixels, hpixels, hlength⟩
        exact .inr ⟨pixels, hpixels, by rw [hlength]; simp [hamount, hlarge]⟩

/-- A block that can be read holds a picture. -/
theorem exists_decode_eq_ok_iff (hsize : 0 ≤ size) :
    (∃ glyph, Glyph.decode settings index size block.position.line block.body = .ok glyph) ↔
      HoldsPicture settings size block := by
  constructor
  · rintro ⟨glyph, hglyph⟩
    -- A block that holds no picture has a fault, which would have been reported.
    have hnone : ∀ kind failure, ¬BlockFault settings size index block kind failure := by
      intro kind failure hfault
      rw [decode_eq_error_iff.2 ⟨kind, hfault⟩] at hglyph
      simp at hglyph
    have hliterals : ∀ token ∈ block.tokens, IsLiteral settings token := by
      intro token htoken
      by_contra hother
      rcases exists_firstAt_of_not htoken hother with ⟨place, first, hfirst, hbad⟩
      exact hnone _ _ (.token hfirst hbad)
    refine ⟨hliterals, ?_⟩
    by_contra hamount
    cases hfits : Text.Numeral.fits (size * size) with
    | true => exact hnone _ _ (.amount hliterals hamount hfits)
    | false => exact hnone _ _ (.unwritable hliterals hamount hfits)
  · intro h
    rcases decode_of_holdsPicture hsize h with ⟨glyph, hglyph, -⟩
    exact ⟨glyph, hglyph⟩

end Decode

/-! ## All blocks -/

section Blocks

variable {settings : Settings} {size : Int} {blocks : List Block} {failure : Failure}

/-- Blocks that all hold pictures give as many square pictures, numbered in order. -/
theorem decodeBlocks_of_holdPictures (hsize : 0 ≤ size)
    (h : ∀ block ∈ blocks, HoldsPicture settings size block) :
    ∃ glyphs, decodeBlocks settings size blocks = .ok glyphs ∧ glyphs.length = blocks.length ∧
      ∀ (i : Nat) (glyph : Glyph), glyphs[i]? = some glyph →
        glyph.index = i ∧ glyph.IsSquare size := by
  have hread : ∀ numbered ∈ blocks.zipIdx, ∃ glyph, Glyph.decode settings numbered.2 size
      numbered.1.position.line numbered.1.body = .ok glyph ∧ glyph.index = numbered.2 ∧
        glyph.IsSquare size :=
    fun numbered hnumbered =>
      decode_of_holdsPicture hsize (h _ (List.fst_mem_of_mem_zipIdx hnumbered))
  rcases exists_mapM_eq_ok fun numbered hnumbered =>
    (hread numbered hnumbered).imp fun _ hglyph => hglyph.1 with ⟨glyphs, hglyphs⟩
  have hpaired := mapM_eq_ok_iff.1 hglyphs
  have hlength : blocks.zipIdx.length = glyphs.length := hpaired.length_eq
  refine ⟨glyphs, hglyphs, by simpa using hlength.symm, ?_⟩
  intro i glyph hglyph
  have hi : i < blocks.zipIdx.length := hlength ▸ (List.getElem?_eq_some_iff.1 hglyph).1
  have hnumbered := List.getElem?_eq_getElem hi
  rcases getElem?_of_forall₂ hpaired hnumbered with ⟨other, hother, hdecoded⟩
  rw [hglyph, Option.some.injEq] at hother
  subst hother
  rcases hread _ (List.getElem_mem hi) with ⟨same, hsame, hindex, hsquare⟩
  rw [hdecoded, Except.ok.injEq] at hsame
  subst hsame
  refine ⟨?_, hsquare⟩
  rw [hindex, List.getElem_zipIdx, Nat.zero_add]

/-- What is reported of blocks is what is wrong with the first one that holds no picture. -/
theorem decodeBlocks_eq_error_iff (hsize : 0 ≤ size) :
    decodeBlocks settings size blocks = .error failure ↔ ∃ place block kind,
      FirstAt blocks (HoldsPicture settings size) place block ∧
        BlockFault settings size place block kind failure := by
  have hread : (fun numbered : Block × Nat => ∃ glyph, Glyph.decode settings numbered.2 size
      numbered.1.position.line numbered.1.body = .ok glyph) =
      fun numbered => HoldsPicture settings size numbered.1 := by
    funext numbered
    rw [exists_decode_eq_ok_iff hsize]
  unfold decodeBlocks
  rw [mapM_eq_error_iff, hread]
  simp only [firstAt_zipIdx_iff, decode_eq_error_iff]
  constructor
  · rintro ⟨place, ⟨block, number⟩, ⟨hfirst, rfl⟩, kind, hfault⟩
    exact ⟨number, block, kind, hfirst, hfault⟩
  · rintro ⟨place, block, kind, hfirst, hfault⟩
    exact ⟨place, (block, place), ⟨hfirst, rfl⟩, kind, hfault⟩

end Blocks

end IconPress
