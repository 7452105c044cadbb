import IconPress.Proofs.DeclarationLines
import IconPress.Proofs.Export
import IconPress.Proofs.Settings

/-!
# Which pixel literals can be used

The literals of the pixels are chosen freely, as long as they differ and are not blank.  The blanks
at their ends do not count, but those inside them do, while a block of a sheet loses all its blanks
before it is read.  So a literal with a blank inside is never found again: its pixels cannot be
read, or they are read as the other kind of pixels if that is written so.

Main definitions:

- `gridText`: a sheet with one picture, written with the literals of some settings.
- `Settings.seen`: the pixel that a literal is taken for.
- `readWritten`: what a pixel is read as.

Main results:

- `outcome_gridText`: the picture of such a sheet, pixel by pixel.
- `literals_usable_iff`: the picture is read back exactly when its literals hold no blanks.
-/

namespace IconPress

open Text (isBlank squeeze)

/-- How a pixel is written in a sheet. -/
def Settings.literal (settings : Settings) (pixel : Bool) : List Char :=
  if pixel then settings.opaquePixel.toList else settings.clearPixel.toList

/-- The pixels of a picture as they are written, row by row. -/
def gridBody (settings : Settings) (grid : List (List Bool)) : List Char :=
  ", ".toList.intercalate (grid.flatten.map settings.literal)

/-- A sheet with one picture. -/
def gridText (settings : Settings) (grid : List (List Bool)) : String :=
  String.ofList ('{' :: (gridBody settings grid ++ ['}']))

/-- What a pixel is read as when its literal has lost its blanks. -/
def readWritten (settings : Settings) (pixel : Bool) : Except Failure Bool :=
  readPixel settings (some 0) (squeeze (settings.literal pixel))

/-- The literals hold no character that has a meaning of its own in a sheet. -/
def Settings.HasPlainLiterals (settings : Settings) : Prop :=
  ∀ pixel, ∀ c ∈ settings.literal pixel, c ≠ ',' ∧ isBrace c = false

/-- The pixel that a literal is taken for, if it is taken for one. -/
def Settings.seen (settings : Settings) (pixel : Bool) : Bool :=
  if (settings.literal pixel).any isBlank then !pixel else pixel

/-! ## Literals -/

section Literals

variable {settings : Settings} {icon : Option Int} {token : List Char} {pixel other : Bool}

/-- A text that is trimmed and not empty holds more than blanks. -/
theorem exists_not_blank_of_trim {text : List Char} (h : Text.trim text ≠ []) :
    ∃ c ∈ Text.trim text, isBlank c = false := by
  have hhead := (trimmed_trim text).head
  rcases List.exists_cons_of_ne_nil h with ⟨c, rest, hcons⟩
  rw [hcons] at hhead ⊢
  exact ⟨c, List.mem_cons_self, hhead c rfl⟩

namespace Settings

/-- A pixel literal that passes its check is a trimmed text. -/
theorem exists_trim_of_checkPixel {given : Supplied} {literal : String}
    (h : checkPixel given = .ok literal) : ∃ text, Text.trim text = literal.toList := by
  cases given with
  | other => simp [checkPixel, checkText, bind, Except.bind] at h
  | text value => exact ⟨value.toList, (checkPixel_eq_ok_iff.1 h).1⟩

/-- The literals of valid settings hold more than blanks. -/
theorem Valid.squeeze_literal_ne (h : settings.Valid) (pixel : Bool) :
    squeeze (settings.literal pixel) ≠ [] := by
  have hsome : ∀ {given literal}, checkPixel given = .ok literal → squeeze literal.toList ≠ [] := by
    intro given literal hpasses
    rcases exists_trim_of_checkPixel hpasses with ⟨text, htext⟩
    have hne := checkPixel_ne_nil hpasses
    rw [← htext] at hne ⊢
    rcases exists_not_blank_of_trim hne with ⟨c, hc, hblank⟩
    exact List.ne_nil_of_mem (Text.mem_squeeze.2 ⟨hc, hblank⟩)
  rcases h with ⟨sources, hsources⟩
  have hchecked := (resolve_eq_ok hsources).1
  cases pixel
  · exact hsome hchecked.clearPixel
  · exact hsome hchecked.opaquePixel

/-- The literals of valid settings tell the pixels apart. -/
theorem Valid.literal_injective (h : settings.Valid) : Function.Injective settings.literal := by
  have hdiffer : settings.opaquePixel.toList ≠ settings.clearPixel.toList :=
    fun heq => h.literals_differ (String.toList_inj.1 heq)
  intro pixel other heq
  cases pixel <;> cases other <;> simp_all [literal, eq_comm]

end Settings

/-- A token is read as the pixel that is written so. -/
theorem readPixel_eq_ok_iff (hvalid : settings.Valid) :
    readPixel settings icon token = .ok pixel ↔ token = settings.literal pixel := by
  constructor
  · intro h
    have hread := readPixel_eq_ok hvalid.literals_differ h
    cases pixel
    · exact hread.2.1 rfl
    · exact hread.1.1 rfl
  · rintro rfl
    have hdiffer := hvalid.literals_differ.symm
    cases pixel <;> simp [readPixel, Settings.literal, hdiffer]

/-- Without its blanks a literal is itself exactly when it has none. -/
theorem squeeze_literal_eq_iff :
    squeeze (settings.literal pixel) = settings.literal pixel ↔
      ∀ c ∈ settings.literal pixel, isBlank c = false := by
  refine ⟨fun h c hc => ?_, Text.squeeze_eq_self⟩
  rw [← h] at hc
  exact (Text.mem_squeeze.1 hc).2

/-- A literal without blanks is taken for the pixel that is written so. -/
theorem seen_eq_self_iff :
    settings.seen pixel = pixel ↔ ∀ c ∈ settings.literal pixel, isBlank c = false := by
  unfold Settings.seen
  split
  · rename_i hblank
    simpa using hblank
  · rename_i hnone
    simpa using hnone

/-- What is left of a literal is the literal of the pixel that it is taken for. -/
theorem eq_seen_of_squeeze_eq (hvalid : settings.Valid)
    (h : squeeze (settings.literal pixel) = settings.literal other) :
    other = settings.seen pixel := by
  by_cases hsame : other = pixel
  · subst hsame
    exact (seen_eq_self_iff.2 (squeeze_literal_eq_iff.1 h)).symm
  · have hseen : settings.seen pixel ≠ pixel := by
      intro hself
      rw [squeeze_literal_eq_iff.2 (seen_eq_self_iff.1 hself)] at h
      exact hsame (hvalid.literal_injective h.symm)
    cases pixel <;> cases other <;> simp_all

/-- A literal without blanks is read as its pixel. -/
theorem readWritten_of_not_blank (hvalid : settings.Valid)
    (h : ∀ c ∈ settings.literal pixel, isBlank c = false) :
    readWritten settings pixel = .ok pixel :=
  (readPixel_eq_ok_iff hvalid).2 (squeeze_literal_eq_iff.2 h)

/-- A literal that is not read has a blank, and what is left of it is reported. -/
theorem readWritten_eq_error {failure : Failure} (hvalid : settings.Valid)
    (h : readWritten settings pixel = .error failure) :
    (∃ c ∈ settings.literal pixel, isBlank c = true) ∧
      failure = .unknownPixel (String.ofList (squeeze (settings.literal pixel)))
        settings.opaquePixel settings.clearPixel (some 0) := by
  refine ⟨?_, (readPixel_eq_error_iff.1 h).2⟩
  by_contra hnone
  rw [readWritten_of_not_blank hvalid (by simpa using hnone)] at h
  cases h

end Literals

/-! ## Pictures -/

section Pictures

variable {settings : Settings} {size : Nat} {grid : List (List Bool)}

theorem flatten_ne_nil_of_isGrid (hsize : 1 ≤ size) (hgrid : IsGrid size grid) :
    grid.flatten ≠ [] := by
  have hlength := length_flatten_of_isGrid hgrid
  rintro hnone
  rw [hnone, List.length_nil] at hlength
  exact Nat.ne_of_lt (Nat.mul_pos hsize hsize) hlength

theorem not_mem_gridBody (hplain : settings.HasPlainLiterals) :
    ∀ c ∈ gridBody settings grid, isBrace c = false := by
  intro c hc
  rcases Text.mem_of_mem_intercalate hc with hc | ⟨part, hpart, hc⟩
  · exact (Text.forall_mem_of_all (by decide) : ∀ c ∈ ", ".toList, isBrace c = false) c hc
  · rcases List.mem_map.1 hpart with ⟨pixel, -, rfl⟩
    exact (hplain pixel c hc).2

/-- The tokens of a picture are its literals without their blanks. -/
theorem splitTokens_gridBody (hvalid : settings.Valid) (hplain : settings.HasPlainLiterals)
    (hsome : grid.flatten ≠ []) :
    splitTokens (gridBody settings grid) =
      grid.flatten.map fun pixel => squeeze (settings.literal pixel) := by
  have hcompact : squeeze (gridBody settings grid) =
      [','].intercalate (grid.flatten.map fun pixel => squeeze (settings.literal pixel)) := by
    have hseparator : squeeze ", ".toList = [','] := by decide
    rw [gridBody, Text.squeeze_intercalate, hseparator, List.map_map]
    rfl
  refine splitTokens_of_squeeze_eq_intercalate hcompact (by simpa using hsome) ?_ ?_
  · intro token htoken hcomma
    rcases List.mem_map.1 htoken with ⟨pixel, -, rfl⟩
    exact (hplain pixel ',' (Text.mem_squeeze.1 hcomma).1).1 rfl
  · rw [List.getLast?_map]
    cases grid.flatten.getLast? with
    | none => simp
    | some pixel => simpa using hvalid.squeeze_literal_ne pixel

/-- The one block of the sheet is the picture. -/
theorem innermostBlocks_gridText (hplain : settings.HasPlainLiterals)
    (hsome : gridBody settings grid ≠ []) :
    innermostBlocks (gridText settings grid) =
      .ok [⟨String.ofList (gridBody settings grid), .start⟩] := by
  have hproper : (Content.block (.text (gridBody settings grid) .nothing) .nothing).Proper :=
    ⟨⟨hsome, not_mem_gridBody hplain, rfl, trivial⟩, trivial⟩
  rw [Content.innermostBlocks_spell hproper]
  · simp [Content.blocks, Content.hasBlock, Content.spell]
  · simp [Content.spell, gridText]

/-- The picture of the sheet is read pixel by pixel, from the literals without their blanks. -/
theorem outcome_gridText (hvalid : settings.Valid) (hplain : settings.HasPlainLiterals)
    (hsize : 1 ≤ size) (hgrid : IsGrid size grid) :
    (extractGlyphs settings (gridText settings grid) size).outcome =
      (grid.flatten.mapM (readWritten settings)).map
        fun pixels => [⟨0, slices size size pixels⟩] := by
  have hsome := flatten_ne_nil_of_isGrid hsize hgrid
  have htokens := splitTokens_gridBody hvalid hplain hsome
  have hbody : gridBody settings grid ≠ [] := by
    intro hnone
    rw [hnone] at htokens
    exact hsome (List.map_eq_nil_iff.1 htokens.symm)
  have hread : (splitTokens (String.ofList (gridBody settings grid)).toList).mapM
      (readPixel settings (some 0)) = grid.flatten.mapM (readWritten settings) := by
    rw [String.toList_ofList, htokens, List.mapM_map]
    rfl
  rw [outcome_extractGlyphs, innermostBlocks_gridText hplain hbody, ok_bind]
  simp only [decodeBlocks, List.zipIdx_cons, List.zipIdx_nil, List.mapM_cons, List.mapM_nil,
    Int.natCast_zero]
  cases hpixels : grid.flatten.mapM (readWritten settings) with
  | error failure =>
      rw [Glyph.decode, hread, hpixels]
      rfl
  | ok pixels =>
      have hcount : (pixels.length : Int) = (size : Int) * size := by
        rw [← (mapM_eq_ok_iff.1 hpixels).length_eq, length_flatten_of_isGrid hgrid,
          Int.natCast_mul]
      rw [Glyph.decode_of_pixels (hread.trans hpixels) hcount]
      rfl

/-- A picture of which every pixel is changed keeps its shape. -/
theorem IsGrid.map (hgrid : IsGrid size grid) (change : Bool → Bool) :
    IsGrid size (grid.map (List.map change)) where
  height := by rw [List.length_map, hgrid.height]
  width := by
    intro row hrow
    rcases List.mem_map.1 hrow with ⟨old, hold, rfl⟩
    rw [List.length_map, hgrid.width old hold]

theorem slices_of_isGrid (hgrid : IsGrid size grid) : slices size size grid.flatten = grid := by
  have hrows := slices_flatten hgrid.width
  rwa [hgrid.height] at hrows

/-- Literals that are all read are taken for the pixels that they seem to be. -/
theorem eq_map_seen_of_mapM (hvalid : settings.Valid) {pixels others : List Bool}
    (h : pixels.mapM (readWritten settings) = .ok others) :
    others = pixels.map settings.seen := by
  have hread := mapM_eq_ok_iff.1 h
  rw [← List.forall₂_eq_eq_eq, List.forall₂_map_right_iff]
  refine hread.flip.imp fun other pixel hpixel => ?_
  exact eq_seen_of_squeeze_eq hvalid ((readPixel_eq_ok_iff hvalid).1 hpixel)

/--
A picture that is written with the literals of valid settings, in which commas and braces do not
occur, is read back exactly when none of its literals holds a blank.  Otherwise the reading fails at
a pixel whose literal holds one and reports what is left of the literal; or else, if what is left
is the literal of the other kind of pixels, every pixel written so is taken for one of these.
-/
theorem literals_usable_iff (hvalid : settings.Valid) (hplain : settings.HasPlainLiterals)
    (hsize : 1 ≤ size) (hgrid : IsGrid size grid) :
    let outcome := (extractGlyphs settings (gridText settings grid) size).outcome
    (outcome = .ok [⟨0, grid⟩] ↔
      ∀ pixel ∈ grid.flatten, ∀ c ∈ settings.literal pixel, isBlank c = false) ∧
    (∀ failure, outcome = .error failure → failure.kind? = some .invalidPixelToken ∧
      ∃ pixel ∈ grid.flatten, (∃ c ∈ settings.literal pixel, isBlank c = true) ∧
        failure = .unknownPixel (String.ofList (squeeze (settings.literal pixel)))
          settings.opaquePixel settings.clearPixel (some 0)) ∧
    (∀ glyphs, outcome = .ok glyphs → glyphs = [⟨0, grid.map (List.map settings.seen)⟩]) := by
  intro outcome
  have houtcome : outcome = _ := outcome_gridText hvalid hplain hsize hgrid
  have hseen : ∀ glyphs, outcome = .ok glyphs →
      glyphs = [⟨0, grid.map (List.map settings.seen)⟩] := by
    intro glyphs hok
    rw [houtcome, map_eq_ok_iff] at hok
    rcases hok with ⟨pixels, hread, rfl⟩
    rw [eq_map_seen_of_mapM hvalid hread, List.map_flatten,
      slices_of_isGrid (hgrid.map settings.seen)]
  refine ⟨⟨?_, ?_⟩, ?_, hseen⟩
  · intro hok pixel hpixel
    have hrows : grid = grid.map (List.map settings.seen) := by
      simpa using hseen _ hok
    have hflat : grid.flatten.map settings.seen = grid.flatten.map id := by
      rw [List.map_id, List.map_flatten, ← hrows]
    exact seen_eq_self_iff.1 (List.map_eq_map_iff.1 hflat pixel hpixel)
  · intro hblank
    have hread : grid.flatten.mapM (readWritten settings) = .ok grid.flatten := by
      rw [mapM_eq_ok_iff, List.forall₂_same]
      exact fun pixel hpixel => readWritten_of_not_blank hvalid (hblank pixel hpixel)
    exact houtcome.trans (map_eq_ok_iff.2 ⟨_, hread, by rw [slices_of_isGrid hgrid]⟩)
  · intro failure herror
    rw [houtcome, map_eq_error_iff] at herror
    rcases mapM_eq_error_iff.1 herror with ⟨place, pixel, hfirst, hother⟩
    rcases readWritten_eq_error hvalid hother with ⟨hblank, rfl⟩
    exact ⟨rfl, pixel, List.mem_of_getElem? hfirst.here, hblank, rfl⟩

end Pictures

/-- Settings under which inked pixels are written with a cast, as in C. -/
def castSettings (opaquePixel : String) : Settings :=
  { Settings.standard with opaquePixel, clearPixel := "(int)0" }

theorem valid_castSettings {opaquePixel : String}
    (h : Settings.resolve ⟨[(Settings.Field.name .opaquePixel, .text opaquePixel),
      (Settings.Field.name .clearPixel, .text "(int)0")], []⟩ = .ok (castSettings opaquePixel)) :
    (castSettings opaquePixel).Valid :=
  ⟨_, h⟩

/-- A cast without blanks can be used. -/
theorem literals_usable_iff_cast :
    (extractGlyphs (castSettings "(int)1")
      (gridText (castSettings "(int)1") [[true, false], [false, true]]) (2 : Nat)).outcome =
        .ok [⟨0, [[true, false], [false, true]]⟩] := by
  have hvalid : (castSettings "(int)1").Valid := valid_castSettings rfl
  have hplain : (castSettings "(int)1").HasPlainLiterals := by
    intro pixel
    cases pixel
    · exact Text.forall_mem_of_all (by decide)
    · exact Text.forall_mem_of_all (by decide)
  have hgrid : IsGrid 2 [[true, false], [false, true]] := ⟨rfl, by decide⟩
  refine (literals_usable_iff hvalid hplain (by decide) hgrid).1.2 fun pixel _ => ?_
  cases pixel
  · exact Text.forall_mem_of_all (by decide)
  · exact Text.forall_mem_of_all (by decide)

/-- A cast with a blank is valid as well, but its pixels cannot be read. -/
theorem literals_unusable_cast :
    (castSettings "(int) 1").Valid ∧ (castSettings "(int) 1").HasPlainLiterals ∧
      IsGrid 1 [[true]] ∧
      (extractGlyphs (castSettings "(int) 1") (gridText (castSettings "(int) 1") [[true]])
        (1 : Nat)).outcome = .error (.unknownPixel "(int)1" "(int) 1" "(int)0" (some 0)) := by
  refine ⟨valid_castSettings rfl, ?_, ⟨rfl, by decide⟩, rfl⟩
  intro pixel
  cases pixel
  · exact Text.forall_mem_of_all (by decide)
  · exact Text.forall_mem_of_all (by decide)

/-- Where the other literal is what is left of the first one, the picture is another one. -/
example : (extractGlyphs (castSettings "(int) 0") (gridText (castSettings "(int) 0") [[true]])
    (1 : Nat)).outcome = .ok [⟨0, [[false]]⟩] := by rfl

end IconPress
