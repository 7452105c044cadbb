import IconPress.Proofs.Outcomes
import IconPress.Proofs.Verdict

/-!
# Drawings are for show

The characters that pictures are drawn with, and whether they can be drawn at all, have no say in
what becomes of a sheet.  Two runs that read pixels alike and write to the same place end with the
same failure, or with documents that differ in their drawings only.  The import at the top of a
document is a free choice as well, and it is seen there alone.

Drawing may fail for one picture and not for another.  As the pictures of a sheet bear different
numbers, an obstacle for each picture covers every way in which some drawings of a run fail.

Main definitions:

- `compileEach`: the document of a sheet, with an obstacle to each drawing.
- `Settings.ReadAlike`: settings that agree on the pixels and on the place of the output.
- `DrawnApart`: documents that differ in their drawings and imports only.

Main results:

- `compile_undisturbed`: compiling under such settings, with any obstacles, ends alike.
-/

namespace IconPress

/-- The document of a sheet; what keeps a drawing from being made may depend on the picture. -/
def compileEach (settings : Settings) (obstacleOf : Glyph → Option String) (sheet : Sheet) :
    Traced Document := do
  let size := sheet.size
  noteLayout (Layout.ofSize size)
  let glyphs ← extractGlyphs settings sheet.text size
  Traced.quiet (checkCount sheet glyphs.length)
  let icons ← glyphs.mapM fun glyph => makeIcon settings (obstacleOf glyph) size glyph
  Traced.quiet (checkNumber size)
  Traced.note .info .pipeline
    s!"Compiled {icons.length} {size}x{size} icon(s) from {sheet.source}"
  return ⟨outputPath settings size, structName size, documentText settings size icons, icons⟩

/-- The same obstacle may be in the way of all drawings. -/
theorem compile_eq_compileEach (settings : Settings) (obstacle : Option String) (sheet : Sheet) :
    compile settings obstacle sheet = compileEach settings (fun _ => obstacle) sheet :=
  rfl

/-- Settings under which pixels are written alike and the output has the same place. -/
structure Settings.ReadAlike (settings other : Settings) : Prop where
  opaquePixel_eq : settings.opaquePixel = other.opaquePixel
  clearPixel_eq : settings.clearPixel = other.clearPixel
  outputDir_eq : settings.outputDir = other.outputDir

/-- Icons with the same names and bytes. -/
structure Icon.SameBytes (icon other : Icon) : Prop where
  constName_eq : icon.constName = other.constName
  methodName_eq : icon.methodName = other.methodName
  packed_eq : icon.packed = other.packed

/-- The icon without its drawing. -/
def Icon.undrawn (icon : Icon) : Icon :=
  { icon with comment := [] }

theorem Icon.SameBytes.undrawn_eq {icon other : Icon} (h : icon.SameBytes other) :
    icon.undrawn = other.undrawn := by
  rw [Icon.undrawn, Icon.undrawn, h.constName_eq, h.methodName_eq, h.packed_eq]

/--
Documents of two settings whose drawings and imports may differ.  They have the same path, the same
name and icons with the same names and bytes, and their texts show nothing but their icons.
-/
structure DrawnApart (settings other : Settings) (size : Int) (document another : Document) :
    Prop where
  path_eq : document.path = another.path
  structName_eq : document.structName = another.structName
  icons : List.Forall₂ Icon.SameBytes document.icons another.icons
  text_eq : document.text = documentText settings size document.icons
  other_text_eq : another.text = documentText other size another.icons
  undrawn_text_eq : settings.macroImport = other.macroImport →
    documentText settings size (document.icons.map Icon.undrawn) =
      documentText other size (another.icons.map Icon.undrawn)

/-! ## Stages -/

section Stages

variable {settings other : Settings}

/-- Only the literals of the pixels matter to the pictures of a text. -/
theorem Settings.ReadAlike.extractGlyphs_eq (h : settings.ReadAlike other) (text : String)
    (size : Int) : extractGlyphs settings text size = extractGlyphs other text size := by
  have hpixel : readPixel settings = readPixel other := by
    funext icon token
    rw [readPixel, readPixel, h.opaquePixel_eq, h.clearPixel_eq]
  have hdecode : Glyph.decode settings = Glyph.decode other := by
    funext index size line body
    rw [Glyph.decode, Glyph.decode, hpixel]
  have hblocks : decodeBlocks settings size = decodeBlocks other size := by
    funext blocks
    rw [decodeBlocks, decodeBlocks, hdecode]
  rw [extractGlyphs, extractGlyphs, hblocks]

/-- A picture is packed alike, whether and however it is drawn. -/
theorem makeIcon_undisturbed (settings other : Settings) (obstacle otherObstacle : Option String)
    (size : Int) (glyph : Glyph) :
    EndAlike Icon.SameBytes (makeIcon settings obstacle size glyph).outcome
      (makeIcon other otherObstacle size glyph).outcome := by
  rw [outcome_makeIcon, outcome_makeIcon]
  cases packRows glyph size with
  | error failure => exact .failure failure
  | ok packed => exact .value ⟨rfl, rfl, rfl⟩

theorem makeIcons_undisturbed (settings other : Settings)
    (obstacleOf otherObstacleOf : Glyph → Option String) (size : Int) (glyphs : List Glyph) :
    EndAlike (List.Forall₂ Icon.SameBytes)
      (glyphs.mapM fun glyph => (makeIcon settings (obstacleOf glyph) size glyph).outcome)
      (glyphs.mapM fun glyph => (makeIcon other (otherObstacleOf glyph) size glyph).outcome) := by
  apply EndAlike.mapM
  rw [List.forall₂_same]
  exact fun glyph _ =>
    makeIcon_undisturbed settings other (obstacleOf glyph) (otherObstacleOf glyph) size glyph

/-- Apart from the import and the drawings, a text is determined by the names and bytes. -/
theorem documentText_undrawn_eq {size : Int} {icons others : List Icon}
    (himport : settings.macroImport = other.macroImport)
    (h : List.Forall₂ Icon.SameBytes icons others) :
    documentText settings size (icons.map Icon.undrawn) =
      documentText other size (others.map Icon.undrawn) := by
  have hicons : icons.map Icon.undrawn = others.map Icon.undrawn := by
    rw [← List.forall₂_eq_eq_eq, List.forall₂_map_left_iff, List.forall₂_map_right_iff]
    exact h.imp fun _ _ hsame => hsame.undrawn_eq
  rw [hicons]
  delta documentText
  rw [himport]

end Stages

/-! ## Documents -/

/-- The stages of a compilation one after another, with their ends only. -/
theorem outcome_compileEach (settings : Settings) (obstacleOf : Glyph → Option String)
    (sheet : Sheet) :
    (compileEach settings obstacleOf sheet).outcome = do
      (noteLayout (Layout.ofSize sheet.size)).outcome
      let glyphs ← (extractGlyphs settings sheet.text sheet.size).outcome
      checkCount sheet glyphs.length
      let icons ← glyphs.mapM fun glyph =>
        (makeIcon settings (obstacleOf glyph) sheet.size glyph).outcome
      checkNumber sheet.size
      return ⟨outputPath settings sheet.size, structName sheet.size,
        documentText settings sheet.size icons, icons⟩ := by
  simp only [compileEach, Traced.outcome_bind, Traced.outcome_quiet, Traced.outcome_note,
    Traced.outcome_pure, Traced.outcome_mapM]
  rfl

/--
Two runs on a sheet whose settings write pixels alike and have the same place for the output end
alike, whatever the other settings are and whichever drawings fail: with the same failure, or with
documents that differ in their drawings and imports only.
-/
theorem compile_undisturbed {settings other : Settings} (h : settings.ReadAlike other)
    (sheet : Sheet) :
    (∀ obstacle otherObstacle, EndAlike (DrawnApart settings other sheet.size)
      (compile settings obstacle sheet).outcome (compile other otherObstacle sheet).outcome) ∧
    ∀ obstacleOf otherObstacleOf, EndAlike (DrawnApart settings other sheet.size)
      (compileEach settings obstacleOf sheet).outcome
      (compileEach other otherObstacleOf sheet).outcome := by
  have heach : ∀ obstacleOf otherObstacleOf, EndAlike (DrawnApart settings other sheet.size)
      (compileEach settings obstacleOf sheet).outcome
      (compileEach other otherObstacleOf sheet).outcome := by
    intro obstacleOf otherObstacleOf
    rw [outcome_compileEach, outcome_compileEach, h.extractGlyphs_eq]
    refine (EndAlike.refl (fun _ => rfl) _).bind fun _ _ _ => ?_
    refine (EndAlike.refl (fun _ => rfl) _).bind ?_
    rintro glyphs _ rfl
    refine (EndAlike.refl (fun _ => rfl) _).bind fun _ _ _ => ?_
    refine (makeIcons_undisturbed settings other obstacleOf otherObstacleOf sheet.size glyphs).bind
      fun icons others hsame => ?_
    refine (EndAlike.refl (fun _ => rfl) _).bind fun _ _ _ => .value ?_
    exact {
      path_eq := by rw [outputPath, outputPath, h.outputDir_eq]
      structName_eq := rfl
      icons := hsame
      text_eq := rfl
      other_text_eq := rfl
      undrawn_text_eq := fun himport => documentText_undrawn_eq himport hsame }
  refine ⟨fun obstacle otherObstacle => ?_, heach⟩
  rw [compile_eq_compileEach, compile_eq_compileEach]
  exact heach _ _

/-- A sheet of two icons, an inked pixel and an empty one. -/
def dots : Sheet :=
  ⟨"\x7b0xff000000\x7d\n\x7b0x00000000\x7d", 1, unknownSource⟩

/-- The standard settings with another input and other characters to draw with. -/
def repainted : Settings :=
  { Settings.standard with
    inputPath := "other.c", markerChar := '@', blankChar := '.', borderChar := '+' }

/-- Neither other characters nor a renderer that fails reach the bytes of two icons. -/
theorem compile_undisturbed_dots :
    Settings.standard.ReadAlike repainted ∧ ∃ document another,
      (compile Settings.standard none dots).outcome = .ok document ∧
      (compile repainted (some "no ink") dots).outcome = .ok another ∧
      DrawnApart Settings.standard repainted 1 document another ∧
      document.icons.map Icon.packed = [["0b10000000"], ["0b00000000"]] ∧
      document.text ≠ another.text := by
  have hread : Settings.standard.ReadAlike repainted := ⟨rfl, rfl, rfl⟩
  have halike := (compile_undisturbed hread dots).1 none (some "no ink")
  have hpacked : (compile Settings.standard none dots).outcome.map
      (fun document => document.icons.map Icon.packed) =
        .ok [["0b10000000"], ["0b00000000"]] := by rfl
  have htext : (compile Settings.standard none dots).outcome.map Document.text ≠
      (compile repainted (some "no ink") dots).outcome.map Document.text := by decide +kernel
  generalize (compile Settings.standard none dots).outcome = first at *
  generalize (compile repainted (some "no ink") dots).outcome = second at *
  cases halike with
  | failure cause => exact absurd rfl htext
  | value hvalue =>
      refine ⟨hread, _, _, rfl, rfl, hvalue, Except.ok.inj hpacked, fun hsame => htext ?_⟩
      exact congrArg Except.ok hsame

end IconPress
