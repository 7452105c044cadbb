import IconPress.Proofs.Declarations
import IconPress.Proofs.Nesting
import IconPress.Proofs.Verdict
import IconPress.Text.Lowercase

/-!
# Sheets as they are exported

A sheet is exported from pictures: a header declares their number and their size, and an array
holds a block for each of them, with its pixels as literals, row by row.  Reading the sheet gives
the pictures back.

Main definitions:

- `exportText`: the sheet that is exported from some pictures.
- `numberedGlyphs`: pictures with their numbers.

Main results:

- `splitTokens_frameBody`: the tokens of a block are the pixels of its picture.
- `declaredValues_exportText`: what the header declares.
- `bodies_exportText`: the innermost blocks are those of the pictures.
- `export_roundTrip`: the size, the number and the pictures are read back.
-/

namespace IconPress

open Text (isWordChar isBlank)
open Text.Numeral (isNumeral digitLimit)

/-! ## The format -/

/-- A pixel as it is exported. -/
def pixelLiteral (pixel : Bool) : List Char :=
  if pixel then "0xff000000".toList else "0x00000000".toList

/-- What stands between the braces of a picture: its pixels, row by row. -/
def frameBody (grid : List (List Bool)) : List Char :=
  '\n' :: (", ".toList.intercalate (grid.flatten.map pixelLiteral) ++ ['\n'])

/-- The blocks of some pictures. -/
def frameBlocks (grids : List (List (List Bool))) : List Char :=
  ",\n".toList.intercalate (grids.map fun grid => '{' :: (frameBody grid ++ ['}']))

/-- The size of some pictures is that of the first one. -/
def exportSize : List (List (List Bool)) → Nat
  | [] => 1
  | grid :: _ => grid.length

/-- The line that opens the array of the pictures, up to its brace. -/
def arrayHead (stem : List Char) (grids : List (List (List Bool))) : List Char :=
  let size := exportSize grids
  "static const uint32_t ".toList ++ Text.lower stem ++ "_data[".toList ++
    grids.length.repr.toList ++ "][".toList ++ (size * size).repr.toList ++ "] = ".toList

/-- The first line of a sheet. -/
def includeLine : List Char :=
  "#include <stdint.h>".toList

/-- The line above the array of the pictures. -/
def remarkLine : List Char :=
  "/* Piskel data for \"New Piskel\" */".toList

/-- The lines of the sheet that is exported from some pictures under a name. -/
def exportLines (stem : List Char) (grids : List (List (List Bool))) : List (List Char) :=
  let size := (exportSize grids).repr.toList
  [includeLine,
    [],
    declarationLine (stem ++ Declaration.nameEnd .count) grids.length.repr.toList,
    declarationLine (stem ++ Declaration.nameEnd .width) size,
    declarationLine (stem ++ Declaration.nameEnd .height) size,
    [],
    remarkLine,
    [],
    arrayHead stem grids ++ ['{'],
    frameBlocks grids,
    ['}', ';']]

/-- The sheet that is exported from some pictures under a name. -/
def exportText (stem : List Char) (grids : List (List (List Bool))) : String :=
  String.ofList (['\n'].intercalate (exportLines stem grids) ++ ['\n'])

/-- A picture has so many rows, and as many pixels in each. -/
structure IsGrid (size : Nat) (grid : List (List Bool)) : Prop where
  height : grid.length = size
  width : ∀ row ∈ grid, row.length = size

/-- Pictures with their numbers, from zero. -/
def numberedGlyphs (grids : List (List (List Bool))) : List Glyph :=
  grids.zipIdx.map fun numbered => ⟨numbered.2, numbered.1⟩

/-! ## Pictures -/

section Pictures

variable {size : Nat} {grid : List (List Bool)} {grids : List (List (List Bool))}

theorem mem_of_mem_pixelLiteral {c : Char} {pixel : Bool} (h : c ∈ pixelLiteral pixel) :
    c ∈ "0xf".toList := by
  have hall : ∀ d ∈ pixelLiteral pixel, d ∈ "0xf".toList := by
    cases pixel <;> exact Text.forall_mem_of_all (by decide)
  exact hall c h

/-- The characters of a block. -/
theorem mem_of_mem_frameBody {c : Char} (h : c ∈ frameBody grid) : c ∈ "0xf, \n".toList := by
  have hliteral : ∀ d ∈ "0xf".toList, d ∈ "0xf, \n".toList := Text.forall_mem_of_all (by decide)
  have hseparator : ∀ d ∈ ", ".toList, d ∈ "0xf, \n".toList := Text.forall_mem_of_all (by decide)
  rcases List.mem_cons.1 h with rfl | h
  · decide
  rcases List.mem_append.1 h with h | h
  · rcases Text.mem_of_mem_intercalate h with h | ⟨part, hpart, hc⟩
    · exact hseparator c h
    · rcases List.mem_map.1 hpart with ⟨pixel, -, rfl⟩
      exact hliteral c (mem_of_mem_pixelLiteral hc)
  · obtain rfl : c = '\n' := List.mem_singleton.1 h
    decide

theorem readPixel_pixelLiteral (icon : Option Int) (pixel : Bool) :
    readPixel Settings.standard icon (pixelLiteral pixel) = .ok pixel := by
  cases pixel <;> rfl

/-- The tokens of a block are the pixels of its picture. -/
theorem splitTokens_frameBody (hsome : grid.flatten ≠ []) :
    splitTokens (frameBody grid) = grid.flatten.map pixelLiteral := by
  have hplain : ∀ part ∈ grid.flatten.map pixelLiteral, ∀ c ∈ part, c ∈ "0xf".toList := by
    intro part hpart c hc
    rcases List.mem_map.1 hpart with ⟨pixel, -, rfl⟩
    exact mem_of_mem_pixelLiteral hc
  have hblank : ∀ c ∈ "0xf".toList, isBlank c = false := Text.forall_mem_of_all (by decide)
  have hsqueeze : (grid.flatten.map pixelLiteral).map Text.squeeze =
      grid.flatten.map pixelLiteral := by
    conv_rhs => rw [← List.map_id (grid.flatten.map pixelLiteral)]
    exact List.map_congr_left fun part hpart =>
      Text.squeeze_eq_self fun c hc => hblank c (hplain part hpart c hc)
  have hcompact : Text.squeeze (frameBody grid) =
      [','].intercalate (grid.flatten.map pixelLiteral) := by
    have hlist : frameBody grid =
        ['\n'] ++ (", ".toList.intercalate (grid.flatten.map pixelLiteral) ++ ['\n']) := rfl
    have hend : Text.squeeze ['\n'] = [] := by decide
    have hseparator : Text.squeeze ", ".toList = [','] := by decide
    rw [hlist, Text.squeeze_append, Text.squeeze_append, Text.squeeze_intercalate, hsqueeze, hend,
      hseparator, List.append_nil, List.nil_append]
  have hlast : (grid.flatten.map pixelLiteral).getLast? ≠ some [] := by
    rw [List.getLast?_map]
    cases grid.flatten.getLast? with
    | none => simp
    | some pixel => cases pixel <;> simp [pixelLiteral]
  exact splitTokens_of_squeeze_eq_intercalate hcompact (by simpa using hsome)
    (fun part hpart hcomma => absurd (hplain part hpart ',' hcomma) (by decide)) hlast

theorem length_flatten_of_isGrid (hgrid : IsGrid size grid) :
    grid.flatten.length = size * size := by
  rw [length_flatten_of_width hgrid.width, hgrid.height]

/-- The picture of a block is the one that was exported. -/
theorem decode_frameBody {index line : Int} (hsize : 1 ≤ size) (hgrid : IsGrid size grid) :
    Glyph.decode Settings.standard index size line (String.ofList (frameBody grid)) =
      .ok ⟨index, grid⟩ := by
  have hlength := length_flatten_of_isGrid hgrid
  have hsome : grid.flatten ≠ [] := by
    intro hnone
    rw [hnone, List.length_nil] at hlength
    have := Nat.mul_pos hsize hsize
    omega
  have hpixels : (splitTokens (String.ofList (frameBody grid)).toList).mapM
      (readPixel Settings.standard (some index)) = .ok grid.flatten := by
    rw [String.toList_ofList, splitTokens_frameBody hsome, mapM_eq_ok_iff,
      List.forall₂_map_left_iff, List.forall₂_same]
    exact fun pixel _ => readPixel_pixelLiteral _ pixel
  have hcount : (grid.flatten.length : Int) = (size : Int) * size := by
    rw [hlength, Int.natCast_mul]
  have hrows := slices_flatten hgrid.width
  rw [hgrid.height] at hrows
  rw [Glyph.decode_of_pixels hpixels hcount, Int.toNat_natCast, hrows]

/-- The pictures of blocks are the ones that were exported, with their numbers. -/
theorem decodeBlocks_of_bodies {blocks : List Block} (hsize : 1 ≤ size)
    (hgrids : ∀ grid ∈ grids, IsGrid size grid)
    (hbodies : blocks.map Block.body = grids.map fun grid => String.ofList (frameBody grid)) :
    decodeBlocks Settings.standard size blocks = .ok (numberedGlyphs grids) := by
  have hlength : blocks.length = grids.length := by
    simpa using congrArg List.length hbodies
  unfold decodeBlocks numberedGlyphs
  rw [mapM_eq_ok_iff, List.forall₂_map_right_iff, List.forall₂_iff_get]
  refine ⟨by simpa using hlength, ?_⟩
  intro i hblock hgrid
  rw [List.length_zipIdx] at hblock hgrid
  have hbody : blocks[i].body = String.ofList (frameBody grids[i]) := by
    simpa [hblock, hgrid] using congrArg (·[i]?) hbodies
  simp only [List.get_eq_getElem, List.getElem_zipIdx, hbody]
  exact decode_frameBody hsize (hgrids _ (List.getElem_mem hgrid))

end Pictures

/-! ## The header -/

section Header

variable {stem : List Char} {grids : List (List (List Bool))}

/-- What stands between the declarations and the array. -/
def exportOpening (stem : List Char) (grids : List (List (List Bool))) : List Char :=
  '\n' :: (remarkLine ++ '\n' :: '\n' :: arrayHead stem grids)

/-- What stands in front of the array. -/
def exportHeader (stem : List Char) (grids : List (List (List Bool))) : List Char :=
  let size := (exportSize grids).repr.toList
  includeLine ++ '\n' :: '\n' ::
    (declarationLine (stem ++ Declaration.nameEnd .count) grids.length.repr.toList ++ '\n' ::
      (declarationLine (stem ++ Declaration.nameEnd .width) size ++ '\n' ::
        (declarationLine (stem ++ Declaration.nameEnd .height) size ++ '\n' ::
          exportOpening stem grids)))

/-- The array. -/
def exportArray (grids : List (List (List Bool))) : List Char :=
  '{' :: '\n' :: (frameBlocks grids ++ ['\n', '}', ';', '\n'])

theorem toList_exportText :
    (exportText stem grids).toList = exportHeader stem grids ++ exportArray grids := by
  simp only [exportText, exportLines, exportHeader, exportOpening, exportArray,
    String.toList_ofList, List.intercalate, List.intersperse_cons_cons, List.intersperse_singleton,
    List.flatten_cons, List.flatten_nil, List.append_assoc, List.cons_append, List.nil_append,
    List.append_nil]

/-- No mark stands in the line that opens the array. -/
theorem not_mem_arrayHead {mark : Char} (hmark : mark ∈ Text.marks)
    (hstem : ∀ c ∈ stem, isWordChar c = true) : mark ∉ arrayHead stem grids := by
  have hfixed : ∀ mark ∈ Text.marks, isWordChar mark = false ∧ Text.Numeral.isDigit mark = false ∧
      mark ∉ "static const uint32_t ".toList ∧ mark ∉ "_data[".toList ∧ mark ∉ "][".toList ∧
      mark ∉ "] = ".toList := Text.forall_mem_of_all (by decide)
  rcases hfixed mark hmark with ⟨hword, hdigit, hstart, hdata, hbetween, hend⟩
  have hlower : mark ∉ Text.lower stem := by
    refine Text.not_mem_lower hmark fun hmem => ?_
    rw [hstem mark hmem] at hword
    simp at hword
  have hnumber := Text.Numeral.not_mem_repr hdigit
  have hname := List.not_mem_append (List.not_mem_append hstart hlower) hdata
  have hcount := List.not_mem_append (List.not_mem_append hname (hnumber grids.length)) hbetween
  exact List.not_mem_append (List.not_mem_append hcount (hnumber _)) hend

/-- No brace and no declaration stands between the declarations and the array. -/
theorem not_mem_exportOpening {mark : Char} (hmark : mark ∈ ['#', '{', '}'])
    (hstem : ∀ c ∈ stem, isWordChar c = true) : mark ∉ exportOpening stem grids := by
  have hfixed : ∀ mark ∈ ['#', '{', '}'], mark ∈ Text.marks ∧ mark ≠ '\n' ∧
      mark ∉ remarkLine := Text.forall_mem_of_all (by decide)
  rcases hfixed mark hmark with ⟨hmarks, hnewline, hcomment⟩
  simp only [exportOpening, List.mem_cons, List.mem_append, not_or]
  exact ⟨hnewline, hcomment, hnewline, hnewline, not_mem_arrayHead hmarks hstem⟩

/-- The characters of the array. -/
theorem mem_of_mem_exportArray {c : Char} (h : c ∈ exportArray grids) :
    c ∈ "0xf, \n".toList ∨ c ∈ ['{', '}', ';'] := by
  have hpart : ∀ part ∈ grids.map fun grid => '{' :: (frameBody grid ++ ['}']), ∀ c ∈ part,
      c ∈ "0xf, \n".toList ∨ c ∈ ['{', '}', ';'] := by
    intro part hpart c hc
    rcases List.mem_map.1 hpart with ⟨grid, -, rfl⟩
    rcases List.mem_cons.1 hc with rfl | hc
    · exact .inr (by decide)
    rcases List.mem_append.1 hc with hc | hc
    · exact .inl (mem_of_mem_frameBody hc)
    · rw [List.mem_singleton.1 hc]
      exact .inr (by decide)
  rcases List.mem_cons.1 h with rfl | h
  · exact .inr (by decide)
  rcases List.mem_cons.1 h with rfl | h
  · exact .inl (by decide)
  have hseparator : ∀ d ∈ ",\n".toList, d ∈ "0xf, \n".toList := Text.forall_mem_of_all (by decide)
  have hend : ∀ d ∈ ['\n', '}', ';', '\n'], d ∈ "0xf, \n".toList ∨ d ∈ ['{', '}', ';'] :=
    Text.forall_mem_of_all (by decide)
  rcases List.mem_append.1 h with h | h
  · rcases Text.mem_of_mem_intercalate h with h | ⟨part, hmem, hc⟩
    · exact .inl (hseparator c h)
    · exact hpart part hmem c hc
  · exact hend c h

/-- The header declares the number of the pictures and their size. -/
theorem declaredValues_exportText (dimension : Dimension)
    (hstem : ∀ c ∈ stem, isWordChar c = true) :
    declaredValues dimension (exportText stem grids).toList =
      if dimension = .count then [grids.length.repr.toList]
      else [(exportSize grids).repr.toList] := by
  have hinclude : declaredValues dimension includeLine = [] := by
    cases dimension <;> rfl
  have hrest : '#' ∉ exportOpening stem grids ++ exportArray grids := by
    rw [List.mem_append, not_or]
    refine ⟨not_mem_exportOpening (by decide) hstem, fun hmem => ?_⟩
    exact absurd (mem_of_mem_exportArray hmem) (by decide)
  have hlines : exportHeader stem grids ++ exportArray grids =
      includeLine ++ '\n' :: ([] ++ '\n' ::
        (declarationLine (stem ++ Declaration.nameEnd .count) grids.length.repr.toList ++ '\n' ::
          (declarationLine (stem ++ Declaration.nameEnd .width) (exportSize grids).repr.toList ++
            '\n' :: (declarationLine (stem ++ Declaration.nameEnd .height)
              (exportSize grids).repr.toList ++
                '\n' :: (exportOpening stem grids ++ exportArray grids))))) := by
    simp only [exportHeader, List.append_assoc, List.cons_append, List.nil_append]
  have hnumeral := Text.Numeral.isNumeral_repr
  have hempty : declaredValues dimension [] = [] := declaredValues_of_not_mem (by simp)
  rw [toList_exportText, hlines]
  simp only [declaredValues_append_newline, hinclude, hempty, declaredValues_of_not_mem hrest,
    declaredValues_declarationLine hstem (hnumeral _)]
  cases dimension <;> rfl

/-- No brace stands in front of the array. -/
theorem isBrace_of_mem_exportHeader (hstem : ∀ c ∈ stem, isWordChar c = true) :
    ∀ c ∈ exportHeader stem grids, isBrace c = false := by
  have hinclude : ∀ c ∈ includeLine, isBrace c = false := Text.forall_mem_of_all (by decide)
  have hdeclaration : ∀ dimension number, ∀ c ∈ declarationLine
      (stem ++ Declaration.nameEnd dimension) (Nat.repr number).toList, isBrace c = false :=
    fun dimension number c =>
      isBrace_of_mem_declarationLine hstem (Text.Numeral.isNumeral_repr number)
  have hopening : ∀ c ∈ exportOpening stem grids, isBrace c = false := by
    intro c hc
    have hbraces : ∀ mark ∈ ['{', '}'], c ≠ mark := by
      rintro mark hmark rfl
      exact not_mem_exportOpening (List.mem_cons_of_mem '#' hmark) hstem hc
    simp [isBrace, hbraces]
  intro c hc
  rcases List.mem_append.1 hc with hc | hc
  · exact hinclude c hc
  rcases List.mem_cons.1 hc with rfl | hc
  · rfl
  rcases List.mem_cons.1 hc with rfl | hc
  · rfl
  rcases List.mem_append.1 hc with hc | hc
  · exact hdeclaration .count _ c hc
  rcases List.mem_cons.1 hc with rfl | hc
  · rfl
  rcases List.mem_append.1 hc with hc | hc
  · exact hdeclaration .width _ c hc
  rcases List.mem_cons.1 hc with rfl | hc
  · rfl
  rcases List.mem_append.1 hc with hc | hc
  · exact hdeclaration .height _ c hc
  rcases List.mem_cons.1 hc with rfl | hc
  · rfl
  · exact hopening c hc

end Header

/-! ## The array -/

/-- The blocks of some pictures, one after another. -/
def framesTree : List (List (List Bool)) → Content
  | [] => .nothing
  | [grid] => .block (.text (frameBody grid) .nothing) (.text ['\n'] .nothing)
  | grid :: next :: others =>
    .block (.text (frameBody grid) .nothing) (.text [',', '\n'] (framesTree (next :: others)))

section Tree

variable {stem : List Char} {grids : List (List (List Bool))}

theorem isBrace_of_mem_frameBody {grid : List (List Bool)} :
    ∀ c ∈ frameBody grid, isBrace c = false := by
  have hall : ∀ c ∈ "0xf, \n".toList, isBrace c = false := Text.forall_mem_of_all (by decide)
  exact fun c hc => hall c (mem_of_mem_frameBody hc)

theorem startsWithText_framesTree : (framesTree grids).startsWithText = false := by
  rcases grids with _ | ⟨grid, _ | ⟨next, others⟩⟩ <;> rfl

theorem proper_framesTree : (framesTree grids).Proper := by
  have hbody : ∀ grid, (Content.text (frameBody grid) .nothing).Proper :=
    fun grid => ⟨List.cons_ne_nil _ _, isBrace_of_mem_frameBody, rfl, trivial⟩
  induction grids using framesTree.induct with
  | case1 => trivial
  | case2 grid =>
      exact ⟨hbody grid, by decide, Text.forall_mem_of_all (by decide), rfl, trivial⟩
  | case3 grid next others ih =>
      exact ⟨hbody grid, by decide, Text.forall_mem_of_all (by decide), startsWithText_framesTree,
        ih⟩

theorem hasBlock_framesTree (hsome : grids ≠ []) : (framesTree grids).hasBlock = true := by
  rcases grids with _ | ⟨grid, _ | ⟨next, others⟩⟩
  · exact absurd rfl hsome
  · rfl
  · rfl

theorem spell_framesTree (hsome : grids ≠ []) :
    (framesTree grids).spell = frameBlocks grids ++ ['\n'] := by
  induction grids using framesTree.induct with
  | case1 => exact absurd rfl hsome
  | case2 grid => simp [framesTree, Content.spell, frameBlocks]
  | case3 grid next others ih =>
      have hblocks : frameBlocks (grid :: next :: others) =
          '{' :: (frameBody grid ++ ['}']) ++ ([',', '\n'] ++ frameBlocks (next :: others)) := rfl
      simp [framesTree, Content.spell, hblocks, ih]

/-- The innermost blocks of the array are those of the pictures. -/
theorem bodies_framesTree (position : Position) :
    ((framesTree grids).blocks position).map Block.body =
      grids.map fun grid => String.ofList (frameBody grid) := by
  induction grids using framesTree.induct generalizing position with
  | case1 => rfl
  | case2 grid => simp [framesTree, Content.blocks, Content.hasBlock, Content.spell]
  | case3 grid next others ih =>
      simp [framesTree, Content.blocks, Content.hasBlock, Content.spell, ih]

/-- The innermost blocks of an exported sheet are those of the pictures. -/
theorem bodies_exportText (hstem : ∀ c ∈ stem, isWordChar c = true) (hsome : grids ≠ []) :
    ∃ blocks, innermostBlocks (exportText stem grids) = .ok blocks ∧
      blocks.map Block.body = grids.map fun grid => String.ofList (frameBody grid) := by
  have hheader : exportHeader stem grids ≠ [] := by
    have hinclude : includeLine ≠ [] := by decide
    exact List.append_ne_nil_of_left_ne_nil hinclude _
  have hproper : (Content.text (exportHeader stem grids)
      (.block (.text ['\n'] (framesTree grids)) (.text [';', '\n'] .nothing))).Proper :=
    ⟨hheader, isBrace_of_mem_exportHeader hstem, rfl,
      ⟨by decide, Text.forall_mem_of_all (by decide), startsWithText_framesTree,
        proper_framesTree⟩,
      by decide, Text.forall_mem_of_all (by decide), rfl, trivial⟩
  refine ⟨_, Content.innermostBlocks_spell hproper _ ?_, ?_⟩
  · simp [toList_exportText, Content.spell, spell_framesTree hsome, exportArray]
  · simp [Content.blocks, Content.hasBlock, hasBlock_framesTree hsome, bodies_framesTree]

end Tree

/-! ## Reading the sheet -/

section RoundTrip

variable {size : Nat} {stem : List Char} {grids : List (List (List Bool))}

theorem exportSize_of_grids (hsome : grids ≠ []) (hgrids : ∀ grid ∈ grids, IsGrid size grid) :
    exportSize grids = size := by
  rcases List.exists_cons_of_ne_nil hsome with ⟨first, others, rfl⟩
  exact (hgrids first List.mem_cons_self).height

/-- The decimal form of a number that is not too large denotes it. -/
theorem denote_repr {number limit : Nat} (hlimit : 0 < limit) (hshort : limit ≤ digitLimit)
    (h : number < 10 ^ limit) : Denote [number.repr.toList] number := by
  refine ⟨by simp, fun value hvalue => ?_⟩
  obtain rfl : value = number.repr.toList := List.mem_singleton.1 hvalue
  have hlength := Text.Numeral.length_repr_le hlimit h
  exact ⟨⟨Text.Numeral.isNumeral_repr number, hlength.trans hshort⟩,
    Text.Numeral.value_repr number⟩

/-- The blocks of an exported sheet hold pictures, the ones that were exported. -/
theorem pictured_exportText (source : String) (hsize : 1 ≤ size) (hsome : grids ≠ [])
    (hgrids : ∀ grid ∈ grids, IsGrid size grid) (hstem : ∀ c ∈ stem, isWordChar c = true) :
    ∃ blocks, Pictured Settings.standard ⟨exportText stem grids, size, source⟩ blocks ∧
      blocks.length = grids.length ∧
      decodeBlocks Settings.standard size blocks = .ok (numberedGlyphs grids) := by
  rcases bodies_exportText hstem hsome with ⟨blocks, hblocks, hbodies⟩
  refine ⟨blocks, ⟨hblocks, ?_⟩, ?_, decodeBlocks_of_bodies hsize hgrids hbodies⟩
  · intro block hblock
    have hbody : block.body ∈ grids.map fun grid => String.ofList (frameBody grid) :=
      hbodies ▸ List.mem_map_of_mem hblock
    rcases List.mem_map.1 hbody with ⟨grid, hgrid, hsame⟩
    have hdecode := @decode_frameBody size grid (0 : Nat) block.position.line hsize
      (hgrids grid hgrid)
    rw [hsame] at hdecode
    exact (exists_decode_eq_ok_iff (Int.natCast_nonneg size)).1 ⟨_, hdecode⟩
  · simpa using congrArg List.length hbodies

/--
An exported sheet is read back: its size, the number of its pictures, and the pictures themselves
with their numbers.  It compiles when rows of the size can be cut into bytes.
-/
theorem export_roundTrip (obstacle : Option String) (source : String) (hsize : 1 ≤ size)
    (hdigits : size < 10 ^ safeDigits) (hsome : grids ≠ [])
    (hcount : grids.length < 10 ^ digitLimit) (hgrids : ∀ grid ∈ grids, IsGrid size grid)
    (hstem : ∀ c ∈ stem, isWordChar c = true) :
    let text := exportText stem grids
    let compiled := (compile Settings.standard obstacle ⟨text, size, source⟩).outcome
    (scanSize text).outcome = .ok size ∧
    scanCount text = .ok (some grids.length) ∧
    (extractGlyphs Settings.standard text size).outcome = .ok (numberedGlyphs grids) ∧
    ((∃ document, compiled = .ok document) ↔ size ≤ 8 ∨ 8 ∣ size) ∧
    (¬(size ≤ 8 ∨ 8 ∣ size) → ∃ failure, compiled = .error failure ∧
      failure.kind? = some .rowPacking) := by
  intro text compiled
  have hvalues := fun dimension => @declaredValues_exportText stem grids dimension hstem
  have hfirst := exportSize_of_grids hsome hgrids
  have hdenote : Denote [size.repr.toList] size := denote_repr (by decide) (by decide) hdigits
  have hnumber : Denote (declaredValues .count text.toList) grids.length := by
    rw [hvalues]
    exact denote_repr (by decide) (Nat.le_refl _) hcount
  have hdeclared : declaredSize text.toList = .ok size := by
    rw [declaredSize_eq_ok_iff, hvalues, hvalues, hfirst]
    exact ⟨hdenote, hdenote, Nat.pos_iff_ne_zero.1 hsize⟩
  have hpositive : (1 : Int) ≤ size := by omega
  have hfits : Text.Numeral.fits size = true :=
    Text.Numeral.fits_of_lt (by decide : safeDigits ≤ digitLimit) (by omega)
      (by exact_mod_cast hdigits)
  have hpackable : IsPackable size ↔ size ≤ 8 ∨ 8 ∣ size := by
    unfold IsPackable
    omega
  rcases pictured_exportText source hsize hsome hgrids hstem with
    ⟨blocks, hpictured, hlength, hglyphs⟩
  have hagrees : CountAgrees ⟨text, size, source⟩ blocks.length := .inr (hlength ▸ hnumber)
  have hblocks : blocks ≠ [] := by
    rintro rfl
    exact hsome (List.length_eq_zero_iff.1 hlength.symm)
  have hfault : ¬(size ≤ 8 ∨ 8 ∣ size) → compiled =
      .error (.rowSplit (some (0, 0)) (size : Int).toNat byteBits) := fun hsplit =>
    (SheetFault.packing hpictured hagrees hblocks (mt hpackable.1 hsplit)).compile_eq_error
      obstacle hpositive
  refine ⟨?_, scanDimension_eq_some_iff.2 hnumber, ?_, ⟨?_, ?_⟩, ?_⟩
  · rw [outcome_scanSize, hdeclared]
  · rw [outcome_extractGlyphs, hpictured.innermost]
    exact hglyphs
  · rintro ⟨document, hok⟩
    by_contra hsplit
    rw [hfault hsplit] at hok
    simp at hok
  · intro hsplit
    exact Flawless.exists_compile_eq_ok obstacle hpositive hfits
      ⟨hpictured, hagrees, .inr (hpackable.2 hsplit)⟩
  · exact fun hsplit => ⟨_, hfault hsplit, rfl⟩

end RoundTrip

/-- Two pictures of two rows. -/
def twoGrids : List (List (List Bool)) :=
  [[[true, false], [false, true]], [[false, false], [true, true]]]

/-- Two pictures that are exported under the usual name and read back. -/
theorem export_roundTrip_twoGrids :
    (extractGlyphs Settings.standard (exportText "NEW_PISKEL".toList twoGrids) (2 : Nat)).outcome =
      .ok [⟨0, [[true, false], [false, true]]⟩, ⟨1, [[false, false], [true, true]]⟩] := by
  have hten : 10 ^ 1 ≤ 10 ^ safeDigits := Nat.pow_le_pow_right (by decide) (by decide)
  have hlimit : 10 ^ 1 ≤ 10 ^ digitLimit := Nat.pow_le_pow_right (by decide) (by decide)
  have hsize : 2 < 10 ^ safeDigits := Nat.lt_of_lt_of_le (by decide) hten
  have hcount : twoGrids.length < 10 ^ digitLimit := Nat.lt_of_lt_of_le (by decide) hlimit
  have hgrids : ∀ grid ∈ twoGrids, IsGrid 2 grid := by
    have hall : ∀ grid ∈ twoGrids, grid.length = 2 ∧ ∀ row ∈ grid, row.length = 2 := by decide
    exact fun grid hgrid => ⟨(hall grid hgrid).1, (hall grid hgrid).2⟩
  exact (export_roundTrip none unknownSource (by decide) hsize (by decide) hcount hgrids
    (Text.forall_mem_of_all (by decide))).2.2.1

end IconPress
