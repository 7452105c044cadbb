import IconPress.Proofs.Drawings
import IconPress.Proofs.LineEnds

/-!
# What surrounds the pixels of a sheet

Of a text only the braces count, and what the innermost blocks hold besides blanks.  Remarks,
declarations and whatever else stands outside of these blocks may be rewritten freely, and blanks
may be put anywhere into the blocks: the pictures stay the same.  If something is wrong with them,
the same is wrong, at another line perhaps.

Main definitions:

- `HoldAlike`: texts with the same braces and, up to blanks, the same innermost blocks.
- `Failure.unplaced`: a failure without the place in the text at which it was noticed.

Main results:

- `balanced_filter_iff`: whether a text is balanced can be seen from its braces alone.
- `HoldAlike.innermostBlocks_eq`: the blocks of such texts, or what is wrong with the braces.
- `surroundings_unnoticed`: their pictures and their documents.
-/

namespace IconPress

open Text (squeeze)

/-! ## Braces -/

section Braces

variable {text other : List Char}

theorem count_filter_isBrace {c : Char} (hc : isBrace c = true) (text : List Char) :
    (text.filter isBrace).count c = text.count c :=
  List.count_filter hc

/-- No closing brace of a text comes before its opening one, and this concerns the braces only. -/
theorem covered_filter_iff :
    (∀ front, front <+: text.filter isBrace → front.count '}' ≤ front.count '{') ↔
      ∀ front, front <+: text → front.count '}' ≤ front.count '{' := by
  have hcounts : ∀ front : List Char,
      (front.filter isBrace).count '}' ≤ (front.filter isBrace).count '{' ↔
        front.count '}' ≤ front.count '{' := by
    intro front
    rw [count_filter_isBrace (by decide), count_filter_isBrace (by decide)]
  constructor
  · intro hcovered front hfront
    exact (hcounts front).1 (hcovered _ (hfront.filter isBrace))
  · intro hcovered front hfront
    rcases List.prefix_filter_iff.1 hfront with ⟨longer, hlonger, rfl⟩
    exact (hcounts longer).2 (hcovered longer hlonger)

/-- Whether a text is balanced can be seen from its braces alone. -/
theorem balanced_filter_iff : Balanced (text.filter isBrace) ↔ Balanced text := by
  have heven : (text.filter isBrace).count '{' = (text.filter isBrace).count '}' ↔
      text.count '{' = text.count '}' := by
    rw [count_filter_isBrace (by decide), count_filter_isBrace (by decide)]
  constructor
  · exact fun h => ⟨covered_filter_iff.1 h.covered, heven.1 h.even⟩
  · exact fun h => ⟨covered_filter_iff.2 h.covered, heven.2 h.even⟩

end Braces

/-! ## Innermost blocks -/

/-- A text has one list of innermost pairs. -/
theorem InnermostPairs.unique {text : List Char} {pairs others : List (Nat × Nat)}
    (h : InnermostPairs text pairs) (hother : InnermostPairs text others) : pairs = others := by
  have hdistinct : ∀ {listed : List (Nat × Nat)}, InnermostPairs text listed → listed.Nodup :=
    fun hlisted => hlisted.increasing.imp fun hlt heq => absurd (heq ▸ hlt) (Nat.lt_irrefl _)
  have hperm : pairs.Perm others := by
    rw [List.perm_ext_iff_of_nodup (hdistinct h) (hdistinct hother)]
    exact fun pair => (h.mem_iff pair.1 pair.2).trans (hother.mem_iff pair.1 pair.2).symm
  exact hperm.eq_of_pairwise (fun a b _ _ hab hba => absurd (hab.trans hba) (Nat.lt_irrefl _))
    h.increasing hother.increasing

/-- What the innermost blocks of a text hold besides blanks, in order. -/
def heldBetween (text : List Char) (pairs : List (Nat × Nat)) : List (List Char) :=
  pairs.map fun pair => squeeze (bodyBetween text pair)

/-- What blocks hold besides blanks. -/
def Block.held (block : Block) : List Char :=
  squeeze block.body.toList

/-- Texts with the same braces and, up to blanks, the same innermost blocks. -/
structure HoldAlike (text other : List Char) : Prop where
  braces_eq : text.filter isBrace = other.filter isBrace
  held_eq : ∀ pairs others, InnermostPairs text pairs → InnermostPairs other others →
    heldBetween text pairs = heldBetween other others

theorem map_held_blockBetween (text : List Char) (pairs : List (Nat × Nat)) :
    (pairs.map (blockBetween text)).map Block.held = heldBetween text pairs := by
  simp [heldBetween, Block.held, blockBetween]

/-- The blocks found in a text hold what stands between its innermost pairs. -/
theorem heldBetween_eq {text : String} {blocks : List Block} {pairs : List (Nat × Nat)}
    (hblocks : innermostBlocks text = .ok blocks) (hpairs : InnermostPairs text.toList pairs) :
    heldBetween text.toList pairs = blocks.map Block.held := by
  rcases innermostBlocks_cases text with
    ⟨-, found, hfound, hok⟩ | ⟨stray, -, herror⟩ | ⟨-, -, herror⟩
  · rw [hblocks, Except.ok.injEq] at hok
    rw [hpairs.unique hfound, hok, map_held_blockBetween]
  · simp [hblocks] at herror
  · simp [hblocks] at herror

/-- Texts whose blocks are found hold alike when their braces and blocks do. -/
theorem holdAlike_of_innermostBlocks {text other : String} {blocks others : List Block}
    (hbraces : text.toList.filter isBrace = other.toList.filter isBrace)
    (hblocks : innermostBlocks text = .ok blocks) (hothers : innermostBlocks other = .ok others)
    (hheld : blocks.map Block.held = others.map Block.held) :
    HoldAlike text.toList other.toList where
  braces_eq := hbraces
  held_eq pairs another hpairs hanother := by
    rw [heldBetween_eq hblocks hpairs, heldBetween_eq hothers hanother, hheld]

/-! ## Failures without their places -/

/-- The failure without the place in the text at which it was noticed. -/
def Failure.unplaced : Failure → Failure
  | .unbalanced _ _ => .unbalanced 0 0
  | .pixelCount icon _ count size => .pixelCount icon 0 count size
  | failure => failure

@[simp]
theorem Failure.kind?_unplaced (failure : Failure) : failure.unplaced.kind? = failure.kind? := by
  cases failure <;> rfl

/-- Pictures depend on what their blocks hold besides blanks, and so does what is wrong. -/
theorem decode_of_held_eq (settings : Settings) (index size : Int) {block other : Block}
    (h : block.held = other.held) :
    (Glyph.decode settings index size block.position.line block.body).mapError Failure.unplaced =
      (Glyph.decode settings index size other.position.line other.body).mapError
        Failure.unplaced := by
  rw [Glyph.decode, Glyph.decode, splitTokens_of_squeeze_eq h, mapError_bind, mapError_bind]
  congr 1
  funext pixels
  split
  · rfl
  · split <;> rfl

/-- Blocks that hold the same besides blanks hold the same pictures. -/
theorem decodeBlocks_of_held_eq (settings : Settings) (size : Int) {blocks others : List Block}
    (h : blocks.map Block.held = others.map Block.held) :
    (decodeBlocks settings size blocks).mapError Failure.unplaced =
      (decodeBlocks settings size others).mapError Failure.unplaced := by
  have hpaired : List.Forall₂ (fun block other => block.held = other.held) blocks others := by
    rwa [← List.forall₂_eq_eq_eq, List.forall₂_map_left_iff, List.forall₂_map_right_iff] at h
  rw [decodeBlocks, decodeBlocks, mapError_mapM, mapError_mapM]
  exact mapM_zipIdx_congr hpaired fun _ _ index hheld => decode_of_held_eq settings index size hheld

/-! ## Texts that hold alike -/

section Alike

variable {text other : String}

/-- Texts that hold alike have blocks that do, or the same is wrong with their braces. -/
theorem HoldAlike.innermostBlocks_eq (h : HoldAlike text.toList other.toList) :
    ((innermostBlocks text).map (·.map Block.held)).mapError Failure.unplaced =
      ((innermostBlocks other).map (·.map Block.held)).mapError Failure.unplaced := by
  have hcovered : (∀ front, front <+: text.toList → front.count '}' ≤ front.count '{') ↔
      ∀ front, front <+: other.toList → front.count '}' ≤ front.count '{' := by
    rw [← covered_filter_iff, h.braces_eq, covered_filter_iff]
  have hbalanced : Balanced text.toList ↔ Balanced other.toList := by
    rw [← balanced_filter_iff, h.braces_eq, balanced_filter_iff]
  rcases innermostBlocks_cases text with
    ⟨hclosed, pairs, hpairs, hok⟩ | ⟨stray, hstray, herror⟩ | ⟨hfronts, hopen, herror⟩
  · rcases innermostBlocks_cases other with
      ⟨-, others, hothers, hother⟩ | ⟨stray, hstray, -⟩ | ⟨-, hopen, -⟩
    · rw [hok, hother]
      simp only [Except.map, map_held_blockBetween, h.held_eq pairs others hpairs hothers]
    · exact absurd (hbalanced.1 hclosed) hstray.not_balanced
    · exact absurd (hbalanced.1 hclosed).even hopen
  · rcases innermostBlocks_cases other with
      ⟨hclosed, -⟩ | ⟨place, -, hother⟩ | ⟨hfronts, -, -⟩
    · exact absurd (hbalanced.2 hclosed) hstray.not_balanced
    · rw [herror, hother]
      rfl
    · have hfront := hcovered.2 hfronts _ (List.take_prefix (stray + 1) _)
      exact absurd hstray.exceeds (Nat.not_lt_of_le hfront)
  · have hodd : other.toList.count '{' ≠ other.toList.count '}' := fun heven =>
      hopen (hbalanced.2 ⟨hcovered.1 hfronts, heven⟩).even
    rw [herror, innermostBlocks_of_open (hcovered.1 hfronts) hodd]

/-- Texts that hold alike have the same pictures, or the same is wrong with them. -/
theorem HoldAlike.extractGlyphs_eq (h : HoldAlike text.toList other.toList) (settings : Settings)
    (size : Int) :
    (extractGlyphs settings text size).outcome.mapError Failure.unplaced =
      (extractGlyphs settings other size).outcome.mapError Failure.unplaced := by
  rw [outcome_extractGlyphs, outcome_extractGlyphs]
  exact mapError_bind_congr _ (·.map Block.held) h.innermostBlocks_eq fun _ _ hheld =>
    decodeBlocks_of_held_eq settings size hheld

/-- Whether the number of icons is right depends on the declared number alone. -/
theorem checkCount_eq_ok_congr (h : scanCount text = scanCount other) (size : Int)
    (source otherSource : String) (found : Nat) :
    checkCount ⟨text, size, source⟩ found = .ok () ↔
      checkCount ⟨other, size, otherSource⟩ found = .ok () := by
  unfold checkCount
  rw [h]
  cases scanCount other with
  | error failure => simp [bind, Except.bind]
  | ok declared =>
      cases declared with
      | none => simp [bind, Except.bind]
      | some number =>
          simp only [bind, Except.bind]
          split <;> simp

end Alike

/--
Texts with the same braces, whose innermost blocks hold the same besides blanks, have the same
pictures at every size, or extracting these fails alike: for the same reason, under the same class,
with the same token, icon and number of pixels, and only the place may be another one.  If the
declared number of icons is the same too, one of the sheets compiles to a document exactly when the
other one compiles to the same document.
-/
theorem surroundings_unnoticed {text other : String} (h : HoldAlike text.toList other.toList)
    (settings : Settings) (size : Int) :
    let outcome := (extractGlyphs settings text size).outcome
    let another := (extractGlyphs settings other size).outcome
    (∀ glyphs, outcome = .ok glyphs ↔ another = .ok glyphs) ∧
    (∀ failure, outcome = .error failure → ∃ elsewhere, another = .error elsewhere ∧
      elsewhere.unplaced = failure.unplaced ∧ elsewhere.kind? = failure.kind?) ∧
    (scanCount text = scanCount other → ∀ obstacle source otherSource document,
      (compile settings obstacle ⟨text, size, source⟩).outcome = .ok document ↔
        (compile settings obstacle ⟨other, size, otherSource⟩).outcome = .ok document) := by
  intro outcome another
  have hsame := h.extractGlyphs_eq settings size
  refine ⟨eq_ok_iff_of_mapError_eq _ hsame, ?_, ?_⟩
  · intro failure herror
    rcases exists_error_of_mapError_eq _ hsame herror with ⟨elsewhere, hother, hview⟩
    refine ⟨elsewhere, hother, hview, ?_⟩
    rw [← elsewhere.kind?_unplaced, hview, failure.kind?_unplaced]
  · intro hcount obstacle source otherSource document
    simp only [compile_eq_compileEach, outcome_compileEach, bind_eq_ok_iff,
      eq_ok_iff_of_mapError_eq _ hsame, checkCount_eq_ok_congr hcount size source otherSource]

/-- A sheet in few words. -/
def terseSheet : String :=
  "\x7b\x7b0xff000000\x7d\x7b0x00000000,\x7d\x7d"

/-- The same sheet with remarks and with blanks inside its literals. -/
def wordySheet : String :=
  "// Dots\n\x7b a \x7b0xff 000000 \x7d /* and */ \x7b\n0x0000\t0000, \x7d\x7d;"

/-- Two dots compile alike, in few words and in many. -/
theorem surroundings_unnoticed_dots :
    HoldAlike terseSheet.toList wordySheet.toList ∧ ∃ document,
      (compile Settings.standard none ⟨terseSheet, 1, unknownSource⟩).outcome = .ok document ∧
      (compile Settings.standard none ⟨wordySheet, 1, "dots.c"⟩).outcome = .ok document := by
  have halike : HoldAlike terseSheet.toList wordySheet.toList :=
    @holdAlike_of_innermostBlocks _ _ [⟨"0xff000000", 1, 2⟩, ⟨"0x00000000,", 1, 14⟩]
      [⟨"0xff 000000 ", 2, 5⟩, ⟨"\n0x0000\t0000, ", 2, 30⟩]
      (by decide) (by rfl) (by rfl) (by decide)
  obtain ⟨document, hdocument⟩ : ∃ document,
      (compile Settings.standard none ⟨terseSheet, 1, unknownSource⟩).outcome = .ok document :=
    ⟨_, by rfl⟩
  have huncounted : ∀ text : String, '#' ∉ text.toList → scanCount text = .ok none :=
    fun text hnone => scanDimension_eq_none_iff.2 (declaredValues_of_not_mem hnone)
  have hcount : scanCount terseSheet = scanCount wordySheet := by
    rw [huncounted terseSheet (by decide), huncounted wordySheet (by decide)]
  have hsame := (surroundings_unnoticed halike Settings.standard 1).2.2 hcount
  exact ⟨halike, document, hdocument, (hsame none unknownSource "dots.c" document).1 hdocument⟩

end IconPress
