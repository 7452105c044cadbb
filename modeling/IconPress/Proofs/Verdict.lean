import IconPress.Proofs.Braces
import IconPress.Proofs.Compile
import IconPress.Proofs.Header
import IconPress.Proofs.Numerals
import IconPress.Proofs.Pictures

/-!
# The verdict on a sheet

A sheet compiles when nothing is wrong with it.  Otherwise the first thing that is wrong decides
what is reported: its braces come first, then its blocks in order, then the declared number of
icons, and the size at last.  This module names these faults and proves that they are the ones.

Main definitions:

- `SheetFault`: what is wrong with a sheet first.
- `Flawless`: a sheet that nothing is wrong with.

Main results:

- `compile_eq_error_iff`: a sheet that does not compile has a fault, and that fault is reported;
  or its size is too large to be written.
- `exists_compile_eq_ok_iff`: a sheet compiles when it is flawless and its size may be written.
- `compile_verdict`: both, for sizes and numbers that are small enough to be written.
-/

namespace IconPress

open Text.Numeral (isNumeral digitLimit)

/-! ## Faults -/

/-- The braces of a sheet are balanced and its innermost blocks hold pictures. -/
structure Pictured (settings : Settings) (sheet : Sheet) (blocks : List Block) : Prop where
  innermost : innermostBlocks sheet.text = .ok blocks
  pictures : ∀ block ∈ blocks, HoldsPicture settings sheet.size block

/-- The number of icons is not declared, or it is the number that is declared. -/
def CountAgrees (sheet : Sheet) (found : Nat) : Prop :=
  declaredValues .count sheet.text.toList = [] ∨
    Denote (declaredValues .count sheet.text.toList) found

/--
What is wrong with a sheet first, and the class under which this is reported, if any.  Each fault
says that there is none of the faults above it.
-/
inductive SheetFault (settings : Settings) (sheet : Sheet) :
    Option Failure.Kind → Failure → Prop where
  | stray {place : Nat} (hstray : FirstStray sheet.text.toList place) :
      SheetFault settings sheet (some .malformedGlyph)
        (.unbalanced (lineAt sheet.text.toList place) (columnAt sheet.text.toList place))
  | unclosed (hcovered : ∀ front, front <+: sheet.text.toList → front.count '}' ≤ front.count '{')
      (hopen : sheet.text.toList.count '{' ≠ sheet.text.toList.count '}') :
      SheetFault settings sheet (some .malformedGlyph) .unterminated
  | block {blocks : List Block} {place : Nat} {block : Block} {kind : Option Failure.Kind}
      {failure : Failure} (hblocks : innermostBlocks sheet.text = .ok blocks)
      (hfirst : FirstAt blocks (HoldsPicture settings sheet.size) place block)
      (hfault : BlockFault settings sheet.size place block kind failure) :
      SheetFault settings sheet kind failure
  | count {blocks : List Block} {kind : Option Failure.Kind} {failure : Failure}
      (hpictured : Pictured settings sheet blocks)
      (hfault : DeclaredFault .count (declaredValues .count sheet.text.toList) kind failure) :
      SheetFault settings sheet kind failure
  | mismatch {blocks : List Block} {declared : Nat} (hpictured : Pictured settings sheet blocks)
      (hdeclared : Denote (declaredValues .count sheet.text.toList) declared)
      (hdiffer : declared ≠ blocks.length) :
      SheetFault settings sheet (some .malformedGlyph)
        (.iconCount sheet.source declared blocks.length)
  | packing {blocks : List Block} (hpictured : Pictured settings sheet blocks)
      (hcount : CountAgrees sheet blocks.length) (hsome : blocks ≠ [])
      (hsize : ¬IsPackable sheet.size) :
      SheetFault settings sheet (some .rowPacking)
        (.rowSplit (some (0, 0)) sheet.size.toNat byteBits)

/-- A sheet that nothing is wrong with, and its blocks. -/
structure Flawless (settings : Settings) (sheet : Sheet) (blocks : List Block) : Prop where
  pictured : Pictured settings sheet blocks
  count : CountAgrees sheet blocks.length
  packable : blocks = [] ∨ IsPackable sheet.size

/-- The class of a fault is that of its failure. -/
theorem SheetFault.kind?_eq {settings : Settings} {sheet : Sheet} {kind : Option Failure.Kind}
    {failure : Failure} (h : SheetFault settings sheet kind failure) : failure.kind? = kind := by
  cases h with
  | stray => rfl
  | unclosed => rfl
  | block _ _ hfault => exact hfault.kind?_eq
  | count _ hfault => exact hfault.kind?_eq
  | mismatch => rfl
  | packing => rfl

/-! ## The stages -/

section Stages

variable {settings : Settings} (obstacle : Option String) {sheet : Sheet} {size : Int}
  {blocks : List Block} {glyphs : List Glyph} {failure : Failure}

/-- The make-up of the bytes of icons that have a size can be noted. -/
theorem outcome_noteLayout (hsize : 1 ≤ size) :
    (noteLayout (Layout.ofSize size)).outcome = .ok () := by
  have hpadding : (Layout.ofSize size).padding.natAbs < 10 := by
    simp only [Layout.ofSize, byteBits]
    omega
  rw [noteLayout, if_pos (Text.Numeral.fits_of_lt_ten hpadding)]
  rfl

/-- The pictures of a text are those of its blocks. -/
theorem outcome_extractGlyphs {text : String} :
    (extractGlyphs settings text size).outcome =
      innermostBlocks text >>= decodeBlocks settings size := by
  simp only [extractGlyphs, Traced.outcome_bind, Traced.outcome_quiet, Traced.outcome_note,
    Traced.outcome_pure]
  cases innermostBlocks text with
  | error failure => rfl
  | ok blocks =>
      change (decodeBlocks settings size blocks >>= fun glyphs => _) =
        decodeBlocks settings size blocks
      cases decodeBlocks settings size blocks <;> rfl

/-- The number of icons is right when it is declared so or not declared. -/
theorem checkCount_eq_ok_iff {found : Nat} :
    checkCount sheet found = .ok () ↔ CountAgrees sheet found := by
  unfold checkCount CountAgrees
  rw [bind_eq_ok_iff, ← scanDimension_eq_none_iff, ← scanDimension_eq_some_iff]
  constructor
  · rintro ⟨_ | declared, hscan, hend⟩
    · exact .inl hscan
    · simp only at hend
      split at hend
      · rename_i hsame
        exact .inr (hsame ▸ hscan)
      · simp at hend
  · rintro (hnone | hsome)
    · exact ⟨none, hnone, rfl⟩
    · exact ⟨some found, hsome, if_pos rfl⟩

/-- What is reported of the number of icons. -/
theorem checkCount_eq_error_iff {found : Nat} :
    checkCount sheet found = .error failure ↔
      (∃ kind, DeclaredFault .count (declaredValues .count sheet.text.toList) kind failure) ∨
      (∃ declared, Denote (declaredValues .count sheet.text.toList) declared ∧ declared ≠ found ∧
        failure = .iconCount sheet.source declared found) := by
  unfold checkCount
  rw [bind_eq_error_iff, ← scanDimension_eq_error_iff]
  simp only [← scanDimension_eq_some_iff]
  refine or_congr Iff.rfl ?_
  constructor
  · rintro ⟨_ | declared, hscan, hend⟩
    · simp at hend
    · simp only at hend
      split at hend
      · simp at hend
      · rename_i hdiffer
        cases hend
        exact ⟨declared, hscan, hdiffer, rfl⟩
  · rintro ⟨declared, hscan, hdiffer, rfl⟩
    exact ⟨some declared, hscan, if_neg hdiffer⟩

/-- An icon is made of a picture that can be packed. -/
theorem outcome_makeIcon (glyph : Glyph) :
    (makeIcon settings obstacle size glyph).outcome = (packRows glyph size).map fun packed =>
      ⟨s!"ICON_{glyph.index}", s!"icon_{glyph.index}", previewLines settings obstacle size glyph,
        packed⟩ := by
  simp only [makeIcon, outcome_packCounted, Traced.outcome_bind, Traced.outcome_pure,
    outcome_preview]
  cases packRows glyph size <;> rfl

/-- Icons are made of square pictures at a packable size, and otherwise of none. -/
theorem makeIcons_of_square (hsize : 1 ≤ size)
    (hglyphs : ∀ (i : Nat) (glyph : Glyph), glyphs[i]? = some glyph →
      glyph.index = i ∧ glyph.IsSquare size) :
    (glyphs = [] ∨ IsPackable size →
      ∃ icons, glyphs.mapM (fun glyph => (makeIcon settings obstacle size glyph).outcome) =
        .ok icons) ∧
    (glyphs ≠ [] → ¬IsPackable size →
      glyphs.mapM (fun glyph => (makeIcon settings obstacle size glyph).outcome) =
        .error (.rowSplit (some (0, 0)) size.toNat byteBits)) := by
  constructor
  · intro hpossible
    apply exists_mapM_eq_ok
    intro glyph hglyph
    rcases List.getElem?_of_mem hglyph with ⟨i, hi⟩
    have hpackable : IsPackable size := by
      refine hpossible.resolve_left ?_
      rintro rfl
      simp at hglyph
    rcases (packRows_of_square (hglyphs i glyph hi).2 hsize).1 hpackable with ⟨bytes, hbytes⟩
    rw [outcome_makeIcon obstacle, hbytes]
    exact ⟨_, rfl⟩
  · intro hsome hpackable
    rcases List.exists_cons_of_ne_nil hsome with ⟨first, others, rfl⟩
    rcases hglyphs 0 first rfl with ⟨hindex, hsquare⟩
    refine mapM_eq_error_iff.2 ⟨0, first, ⟨rfl, by simp⟩, ?_⟩
    rw [outcome_makeIcon, (packRows_of_square hsquare hsize).2 hpackable, hindex]
    rfl

end Stages

/-! ## All stages -/

section Compile

variable {settings : Settings} (obstacle : Option String) {sheet : Sheet} {blocks : List Block}
  {failure : Failure}

/-- Behind the note on the bytes, the stages come one after another. -/
theorem outcome_compile (hsize : 1 ≤ sheet.size) :
    (compile settings obstacle sheet).outcome = do
      let blocks ← innermostBlocks sheet.text
      let glyphs ← decodeBlocks settings sheet.size blocks
      checkCount sheet glyphs.length
      let icons ← glyphs.mapM fun glyph =>
        (makeIcon settings obstacle sheet.size glyph).outcome
      checkNumber sheet.size
      return ⟨outputPath settings sheet.size, structName sheet.size,
        documentText settings sheet.size icons, icons⟩ := by
  simp only [compile, Traced.outcome_bind, outcome_noteLayout hsize, outcome_extractGlyphs,
    Traced.outcome_quiet, Traced.outcome_note, Traced.outcome_pure, Traced.outcome_mapM]
  cases innermostBlocks sheet.text with
  | error failure => rfl
  | ok blocks => rfl

/-- A sheet whose blocks hold pictures is left with its number of icons and its size. -/
theorem outcome_compile_of_pictured (hsize : 1 ≤ sheet.size)
    (hpictured : Pictured settings sheet blocks) :
    ∃ glyphs : List Glyph, glyphs.length = blocks.length ∧
      (∀ (i : Nat) (glyph : Glyph), glyphs[i]? = some glyph →
        glyph.index = i ∧ glyph.IsSquare sheet.size) ∧
      (compile settings obstacle sheet).outcome = do
        checkCount sheet blocks.length
        let icons ← glyphs.mapM fun glyph =>
          (makeIcon settings obstacle sheet.size glyph).outcome
        checkNumber sheet.size
        return ⟨outputPath settings sheet.size, structName sheet.size,
          documentText settings sheet.size icons, icons⟩ := by
  rcases decodeBlocks_of_holdPictures (by omega) hpictured.pictures with
    ⟨glyphs, hglyphs, hlength, hsquare⟩
  refine ⟨glyphs, hlength, hsquare, ?_⟩
  rw [outcome_compile obstacle hsize, hpictured.innermost, ← hlength]
  change (decodeBlocks settings sheet.size blocks >>= fun glyphs => _) = _
  rw [hglyphs]
  rfl

/-- Nothing but the size can keep a flawless sheet from being compiled. -/
theorem Flawless.outcome_compile (hsize : 1 ≤ sheet.size) (h : Flawless settings sheet blocks) :
    ∃ document, (compile settings obstacle sheet).outcome =
      (checkNumber sheet.size).map fun _ => document := by
  rcases outcome_compile_of_pictured obstacle hsize h.pictured with
    ⟨glyphs, hlength, hsquare, houtcome⟩
  have hpossible : glyphs = [] ∨ IsPackable sheet.size :=
    h.packable.imp_left fun hnone => List.length_eq_zero_iff.1 (by rw [hlength, hnone]; rfl)
  rcases (makeIcons_of_square obstacle hsize hsquare).1 hpossible with ⟨icons, hicons⟩
  rw [houtcome, checkCount_eq_ok_iff.2 h.count, hicons]
  exact ⟨_, rfl⟩

/-- A flawless sheet compiles if its size may be written. -/
theorem Flawless.exists_compile_eq_ok (hsize : 1 ≤ sheet.size)
    (hfits : Text.Numeral.fits sheet.size = true) (h : Flawless settings sheet blocks) :
    ∃ document, (compile settings obstacle sheet).outcome = .ok document := by
  rcases h.outcome_compile obstacle hsize with ⟨document, houtcome⟩
  rw [houtcome, checkNumber_eq_ok_iff.2 hfits]
  exact ⟨document, rfl⟩

/-- What is wrong with a sheet is reported. -/
theorem SheetFault.compile_eq_error {kind : Option Failure.Kind} (hsize : 1 ≤ sheet.size)
    (h : SheetFault settings sheet kind failure) :
    (compile settings obstacle sheet).outcome = .error failure := by
  cases h with
  | stray hstray =>
      rw [outcome_compile obstacle hsize, innermostBlocks_of_stray hstray]
      rfl
  | unclosed hcovered hopen =>
      rw [outcome_compile obstacle hsize, innermostBlocks_of_open hcovered hopen]
      rfl
  | block hblocks hfirst hfault =>
      rw [outcome_compile obstacle hsize, hblocks]
      refine bind_eq_error_iff.2 (.inr ⟨_, rfl, bind_eq_error_iff.2 (.inl ?_)⟩)
      exact (decodeBlocks_eq_error_iff (by omega)).2 ⟨_, _, _, hfirst, hfault⟩
  | count hpictured hfault =>
      rcases outcome_compile_of_pictured obstacle hsize hpictured with
        ⟨glyphs, -, -, houtcome⟩
      rw [houtcome]
      exact bind_eq_error_iff.2 (.inl (checkCount_eq_error_iff.2 (.inl ⟨_, hfault⟩)))
  | mismatch hpictured hdeclared hdiffer =>
      rcases outcome_compile_of_pictured obstacle hsize hpictured with
        ⟨glyphs, -, -, houtcome⟩
      rw [houtcome]
      exact bind_eq_error_iff.2
        (.inl (checkCount_eq_error_iff.2 (.inr ⟨_, hdeclared, hdiffer, rfl⟩)))
  | packing hpictured hcount hsome hpackable =>
      rcases outcome_compile_of_pictured obstacle hsize hpictured with
        ⟨glyphs, hlength, hsquare, houtcome⟩
      have hglyphs : glyphs ≠ [] := by
        rintro rfl
        exact hsome (List.length_eq_zero_iff.1 hlength.symm)
      rw [houtcome, checkCount_eq_ok_iff.2 hcount]
      refine bind_eq_error_iff.2 (.inr ⟨(), rfl, bind_eq_error_iff.2 (.inl ?_)⟩)
      exact (makeIcons_of_square obstacle hsize hsquare).2 hglyphs hpackable

/-- A sheet is flawless, or something is wrong with it first. -/
theorem flawless_or_fault (settings : Settings) (sheet : Sheet) (hsize : 1 ≤ sheet.size) :
    (∃ blocks, Flawless settings sheet blocks) ∨
      ∃ kind failure, SheetFault settings sheet kind failure := by
  rcases innermostBlocks_cases sheet.text with
    ⟨-, pairs, -, hblocks⟩ | ⟨stray, hstray, -⟩ | ⟨hcovered, hopen, -⟩
  · generalize pairs.map _ = blocks at hblocks
    by_cases hpictures : ∀ block ∈ blocks, HoldsPicture settings sheet.size block
    · have hpictured : Pictured settings sheet blocks := ⟨hblocks, hpictures⟩
      cases hcheck : checkCount sheet blocks.length with
      | error failure =>
          rcases checkCount_eq_error_iff.1 hcheck with
            ⟨kind, hfault⟩ | ⟨declared, hdeclared, hdiffer, -⟩
          · exact .inr ⟨_, _, .count hpictured hfault⟩
          · exact .inr ⟨_, _, .mismatch hpictured hdeclared hdiffer⟩
      | ok _ =>
          have hcount := checkCount_eq_ok_iff.1 hcheck
          by_cases hpackable : blocks = [] ∨ IsPackable sheet.size
          · exact .inl ⟨blocks, hpictured, hcount, hpackable⟩
          · rw [not_or] at hpackable
            exact .inr ⟨_, _, .packing hpictured hcount hpackable.1 hpackable.2⟩
    · obtain ⟨block, hblock, hbad⟩ : ∃ block ∈ blocks, ¬HoldsPicture settings sheet.size block := by
        simpa using hpictures
      rcases exists_firstAt_of_not hblock hbad with ⟨place, first, hfirst, hlacks⟩
      cases hdecode : Glyph.decode settings place sheet.size first.position.line first.body with
      | ok glyph =>
          exact absurd ((exists_decode_eq_ok_iff (by omega)).1 ⟨glyph, hdecode⟩) hlacks
      | error failure =>
          rcases decode_eq_error_iff.1 hdecode with ⟨kind, hfault⟩
          exact .inr ⟨_, _, .block hblocks hfirst hfault⟩
  · exact .inr ⟨_, _, .stray hstray⟩
  · exact .inr ⟨_, _, .unclosed hcovered hopen⟩

variable {obstacle}

/-- What is wrong with a sheet first is reported of it, or else that its size is too large. -/
theorem compile_eq_error_iff (hsize : 1 ≤ sheet.size) :
    (compile settings obstacle sheet).outcome = .error failure ↔
      (∃ kind, SheetFault settings sheet kind failure) ∨
      (∃ blocks, Flawless settings sheet blocks) ∧
        Text.Numeral.fits sheet.size = false ∧ failure = .numberTooLarge := by
  constructor
  · intro herror
    rcases flawless_or_fault settings sheet hsize with ⟨blocks, hflawless⟩ | ⟨kind, other, hfault⟩
    · rcases hflawless.outcome_compile obstacle hsize with ⟨document, houtcome⟩
      rw [houtcome, map_eq_error_iff, checkNumber_eq_error_iff] at herror
      exact .inr ⟨⟨blocks, hflawless⟩, herror⟩
    · have hother := hfault.compile_eq_error obstacle hsize
      rw [herror, Except.error.injEq] at hother
      exact .inl ⟨kind, hother ▸ hfault⟩
  · rintro (⟨kind, hfault⟩ | ⟨⟨blocks, hflawless⟩, hlarge⟩)
    · exact hfault.compile_eq_error obstacle hsize
    · rcases hflawless.outcome_compile obstacle hsize with ⟨document, houtcome⟩
      rw [houtcome, map_eq_error_iff, checkNumber_eq_error_iff]
      exact hlarge

/-- Where the size may be written, what is reported of a sheet is what is wrong with it first. -/
theorem compile_eq_error_iff_of_fits (hsize : 1 ≤ sheet.size)
    (hfits : Text.Numeral.fits sheet.size = true) :
    (compile settings obstacle sheet).outcome = .error failure ↔
      ∃ kind, SheetFault settings sheet kind failure := by
  simp [compile_eq_error_iff hsize, hfits]

/-- A sheet that compiles is flawless, and its size may be written. -/
theorem exists_compile_eq_ok_iff (hsize : 1 ≤ sheet.size) :
    (∃ document, (compile settings obstacle sheet).outcome = .ok document) ↔
      Text.Numeral.fits sheet.size = true ∧ ∃ blocks, Flawless settings sheet blocks := by
  constructor
  · rintro ⟨document, hok⟩
    refine ⟨(document_of_compile hok).1, (flawless_or_fault settings sheet hsize).resolve_right ?_⟩
    rintro ⟨kind, failure, hfault⟩
    rw [hfault.compile_eq_error obstacle hsize] at hok
    simp at hok
  · rintro ⟨hfits, blocks, hflawless⟩
    exact hflawless.exists_compile_eq_ok obstacle hsize hfits

/-! ## Small numbers -/

/-- Sizes up to so many digits have squares that can be written. -/
def safeDigits : Nat :=
  2150

/--
A sheet is wrong without a class only when a numeral that declares the number of its icons is too
long, or when the number of pixels that an icon should have is too large to be written.
-/
theorem SheetFault.overlong (h : SheetFault settings sheet none failure) :
    Overlong (declaredValues .count sheet.text.toList) failure ∨
      Text.Numeral.fits (sheet.size * sheet.size) = false ∧ failure = .numberTooLarge := by
  cases h with
  | block _ _ hfault =>
      cases hfault with
      | unwritable _ _ hlarge => exact .inr ⟨hlarge, rfl⟩
  | count _ hfault => exact .inl hfault.overlong

/-- Where numbers are small, what is wrong with a sheet has a class. -/
theorem SheetFault.exists_kind {kind : Option Failure.Kind} (hsize : 1 ≤ sheet.size)
    (hdigits : sheet.size < 10 ^ safeDigits)
    (hcount : NumeralsFit (declaredValues .count sheet.text.toList))
    (h : SheetFault settings sheet kind failure) : ∃ reported, kind = some reported := by
  cases kind with
  | some reported => exact ⟨reported, rfl⟩
  | none =>
      rcases h.overlong with hlong | ⟨hlarge, -⟩
      · exact absurd hlong hcount.not_overlong
      · have hfits := Text.Numeral.fits_mul_self (by decide) (by omega) hdigits
        rw [hlarge] at hfits
        simp at hfits

/-- What is wrong with a sheet does not concern files. -/
theorem SheetFault.ne_filesystem {kind : Option Failure.Kind}
    (h : SheetFault settings sheet kind failure) : kind ≠ some .filesystem := by
  rintro rfl
  cases h with
  | block _ _ hfault => cases hfault
  | count _ hfault => exact hfault.ne_filesystem rfl

/-- No fault is about the length of a row. -/
theorem SheetFault.ne_rowLength {kind : Option Failure.Kind} {index size : Int} {row count : Nat}
    (h : SheetFault settings sheet kind failure) : failure ≠ .rowLength index row count size := by
  rintro rfl
  have hkind := h.kind?_eq
  cases h with
  | block _ _ hfault => cases hfault
  | count _ hfault =>
      cases hfault with
      | value _ hvalue => cases hvalue

/-! ## The verdict -/

/-- The names of the icons of a document, in order. -/
def Document.names (document : Document) : List (String × String) :=
  document.icons.map fun icon => (icon.constName, icon.methodName)

/-- The names of so many icons that are numbered from zero. -/
def numberedNames (count : Nat) : List (String × String) :=
  (List.range count).map fun i => (s!"ICON_{i}", s!"icon_{i}")

/-- The icons of a document are named by the numbers of the blocks. -/
theorem names_of_compile {document : Document} (hsize : 1 ≤ sheet.size)
    (hblocks : innermostBlocks sheet.text = .ok blocks)
    (h : (compile settings obstacle sheet).outcome = .ok document) :
    document.names = numberedNames blocks.length := by
  rcases compile_eq_ok (by omega) h with ⟨found, icons, hfound, hicons, rfl⟩
  rw [hblocks, Except.ok.injEq] at hfound
  subst hfound
  have hnames : ∀ {numbered : List (Block × Nat)} {icons : List Icon},
      List.Forall₂ (IconOf settings obstacle sheet.size) numbered icons →
        icons.map (fun icon => (icon.constName, icon.methodName)) =
          (numbered.map Prod.snd).map fun i => (s!"ICON_{i}", s!"icon_{i}") := by
    intro numbered icons hpaired
    induction hpaired with
    | nil => rfl
    | cons hicon _ ih =>
        simp only [List.map_cons, ih, hicon.constName_eq, hicon.methodName_eq]
        rfl
  rw [Document.names, hnames hicons, List.zipIdx_map_snd, ← List.range_eq_range']
  rfl

/--
What becomes of a sheet whose size and numbers are small.  It fails with what is wrong with it
first, which has a class; and it compiles when nothing is wrong with it, to a document that has an
icon for each block.  The length of a row is never what is wrong.
-/
theorem compile_verdict (settings : Settings) (obstacle : Option String) (sheet : Sheet)
    (hsize : 1 ≤ sheet.size) (hdigits : sheet.size < 10 ^ safeDigits)
    (hcount : NumeralsFit (declaredValues .count sheet.text.toList)) :
    let outcome := (compile settings obstacle sheet).outcome
    (∀ failure, outcome = .error failure ↔
      ∃ kind, SheetFault settings sheet (some kind) failure) ∧
    (∀ kind failure, SheetFault settings sheet kind failure → failure.kind? = kind) ∧
    (∀ blocks, Flawless settings sheet blocks → ∃ document, outcome = .ok document) ∧
    (∀ document, outcome = .ok document → ∃ blocks, Flawless settings sheet blocks ∧
      document.names = numberedNames blocks.length) ∧
    ∀ index row count size, outcome ≠ .error (.rowLength index row count size) := by
  intro outcome
  have hfits := Text.Numeral.fits_of_lt (by decide) (by omega) hdigits
  refine ⟨?_, fun kind failure hfault => hfault.kind?_eq, ?_, ?_, ?_⟩
  · intro failure
    rw [compile_eq_error_iff_of_fits hsize hfits]
    constructor
    · rintro ⟨kind, hfault⟩
      rcases hfault.exists_kind hsize hdigits hcount with ⟨reported, rfl⟩
      exact ⟨reported, hfault⟩
    · rintro ⟨kind, hfault⟩
      exact ⟨some kind, hfault⟩
  · exact fun blocks hflawless => hflawless.exists_compile_eq_ok obstacle hsize hfits
  · intro document hok
    rcases (exists_compile_eq_ok_iff hsize).1 ⟨document, hok⟩ with ⟨-, blocks, hflawless⟩
    exact ⟨blocks, hflawless, names_of_compile hsize hflawless.pictured.innermost hok⟩
  · intro index row count size herror
    rcases (compile_eq_error_iff_of_fits hsize hfits).1 herror with ⟨kind, hfault⟩
    exact hfault.ne_rowLength rfl

end Compile

/-- A sheet with several faults, whose second block has the first of them. -/
def faultySheet : Sheet :=
  ⟨"#define A_FRAME_COUNT x\n\x7b0xff000000\x7d\x7b1, 0xff000000\x7d", 1, unknownSource⟩

/-- The pixel that cannot be read is reported, with the icon that it is found in. -/
theorem compile_verdict_faultySheet :
    (compile Settings.standard none faultySheet).outcome =
      .error (.unknownPixel "1" "0xff000000" "0x00000000" (some 1)) := by
  have hvalues : declaredValues .count faultySheet.text.toList = [['x']] := by rfl
  have hblocks : innermostBlocks faultySheet.text =
      .ok [⟨"0xff000000", 2, 1⟩, ⟨"1, 0xff000000", 2, 13⟩] := by rfl
  have hpicture : HoldsPicture Settings.standard 1 ⟨"0xff000000", 2, 1⟩ := by decide
  have hblock : FirstAt [⟨"0xff000000", 2, 1⟩, ⟨"1, 0xff000000", 2, 13⟩]
      (HoldsPicture Settings.standard 1) 1 ⟨"1, 0xff000000", 2, 13⟩ := by
    refine ⟨rfl, fun i block hi hblock => ?_⟩
    obtain rfl : i = 0 := by omega
    exact Option.some.inj hblock ▸ hpicture
  have htoken : FirstAt (Block.tokens ⟨"1, 0xff000000", 2, 13⟩) (IsLiteral Settings.standard) 0
      ['1'] := ⟨rfl, by simp⟩
  have hlow : (1 : Int) < 10 ^ safeDigits := by
    exact_mod_cast Nat.one_lt_pow (by decide : safeDigits ≠ 0) (by decide : 1 < 10)
  have hverdict := compile_verdict Settings.standard none faultySheet (by decide) hlow
    (by rw [hvalues]; decide)
  exact (hverdict.1 _).2 ⟨_, .block hblocks hblock (.token htoken (by decide))⟩

end IconPress
