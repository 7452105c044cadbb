import IconPress.Icon.Compile
import IconPress.Proofs.Declarations
import IconPress.Proofs.Outcomes

/-!
# The ends of lines

Lines may end with a line feed, or with a carriage return and a line feed.  A sheet says the same
either way: its declarations lose the blanks at their ends, its blocks lose all blanks, and a
position depends on the line feeds before it and on what follows the last of them.

Main definitions:

- `withReturns`: a text with a carriage return before every line feed.
- `Block.Alike` and `Scanner.Alike`: blocks and scanners that differ in blanks only.

Main results:

- `declaredValues_withReturns`: the declarations of a text.
- `innermostBlocks_withReturns`: its blocks, or what is wrong with its braces.
- `returns_unnoticed`: the size, the number of icons and the document of a sheet.
-/

namespace IconPress

open Text (isBlank squeeze lines)

/-- The text with a carriage return before every line feed. -/
def withReturns (text : List Char) : List Char :=
  text.flatMap fun c => if c = '\n' then ['\r', '\n'] else [c]

@[simp]
theorem withReturns_cons_newline (rest : List Char) :
    withReturns ('\n' :: rest) = '\r' :: '\n' :: withReturns rest :=
  rfl

theorem withReturns_cons_of_ne {c : Char} (h : c ≠ '\n') (rest : List Char) :
    withReturns (c :: rest) = c :: withReturns rest := by
  simp [withReturns, h]

/-! ## A character behind a text -/

section Concat

variable {p : Char → Bool} {c : Char}

/-- What is dropped from the start does not reach an end that is not dropped itself. -/
theorem dropWhile_concat (hc : p c = false) (text : List Char) :
    (text ++ [c]).dropWhile p = text.dropWhile p ++ [c] := by
  rw [List.dropWhile_append]
  split
  · rename_i hnone
    rw [List.isEmpty_iff] at hnone
    simp [hnone, hc]
  · rfl

theorem takeWhile_concat (hc : p c = false) (text : List Char) :
    (text ++ [c]).takeWhile p = text.takeWhile p := by
  rw [List.takeWhile_append]
  split
  · rename_i hall
    simp [hc, (List.takeWhile_prefix p).eq_of_length hall]
  · rfl

/-- A word at the start of a text does not reach an end that it does not hold. -/
theorem afterWord?_concat {word : String} (hc : c ∉ word.toList) (text : List Char) :
    afterWord? word (text ++ [c]) = (afterWord? word text).map (· ++ [c]) := by
  have hbegins : word.toList.isPrefixOf (text ++ [c]) = word.toList.isPrefixOf text := by
    rw [Bool.eq_iff_iff, List.isPrefixOf_iff_prefix, List.isPrefixOf_iff_prefix,
      List.prefix_concat_iff]
    refine ⟨fun h => h.resolve_left ?_, .inr⟩
    intro heq
    exact hc (heq ▸ by simp)
  unfold afterWord?
  rw [hbegins]
  split
  · rename_i hword
    have hlength := (List.isPrefixOf_iff_prefix.1 hword).length_le
    rw [String.length_toList] at hlength
    rw [List.drop_append_of_le_length hlength, Option.map_some]
  · rfl

theorem opensComment_concat_iff (hslash : c ≠ '/') (hstar : c ≠ '*') {text : List Char} :
    OpensComment (text ++ [c]) ↔ OpensComment text := by
  have hlast : ∀ d, d ≠ c → (['/', d] <+: text ++ [c] ↔ ['/', d] <+: text) := by
    intro d hd
    rw [List.prefix_concat_iff]
    refine ⟨fun h => h.resolve_left ?_, .inr⟩
    intro heq
    exact hd (by simpa using congrArg List.getLast? heq)
  rw [OpensComment, hlast _ hslash.symm, hlast _ hstar.symm, OpensComment]

/-- A comment hides what follows it, and otherwise all of the text stays. -/
theorem uncommented_concat (hslash : c ≠ '/') (hstar : c ≠ '*') (text : List Char) :
    uncommented (text ++ [c]) = uncommented text ∨
      uncommented (text ++ [c]) = uncommented text ++ [c] := by
  induction text with
  | nil => exact .inr (by simp [uncommented])
  | cons d rest ih =>
      by_cases hopens : OpensComment (d :: rest)
      · have hboth := (opensComment_concat_iff hslash hstar).2 hopens
        exact .inl (by rw [uncommented_of_opensComment hopens, uncommented_of_opensComment hboth])
      · have hboth := mt (opensComment_concat_iff hslash hstar).1 hopens
        rw [List.cons_append] at hboth ⊢
        rw [uncommented_cons hopens, uncommented_cons hboth]
        exact ih.imp (congrArg (d :: ·)) (congrArg (d :: ·))

/-- Trimming takes away a blank at the end. -/
theorem trim_concat (hc : isBlank c = true) (text : List Char) :
    Text.trim (text ++ [c]) = Text.trim text := by
  unfold Text.trim
  rw [List.dropWhile_append]
  split
  · rename_i hnone
    rw [List.isEmpty_iff] at hnone
    simp [hnone, hc]
  · simp [Text.trimEnd, hc]

end Concat

/-! ## Declarations -/

/-- A line is the same, or it has got a carriage return at its end. -/
def MayEndInReturn (line other : List Char) : Prop :=
  other = line ∨ other = line ++ ['\r']

/-- Lines stay lines, and nothing but their ends changes. -/
theorem lines_withReturns (text : List Char) :
    List.Forall₂ MayEndInReturn (lines text) (lines (withReturns text)) := by
  unfold lines
  induction text with
  | nil => exact .cons (.inl rfl) .nil
  | cons c rest ih =>
      by_cases hc : c = '\n'
      · subst hc
        rw [withReturns_cons_newline, Text.pieces_cons_self,
          Text.pieces_cons_of_ne (by decide : '\r' ≠ '\n'), Text.pieces_cons_self]
        exact .cons (.inr rfl) ih
      · rw [withReturns_cons_of_ne hc, Text.pieces_cons_of_ne hc, Text.pieces_cons_of_ne hc]
        generalize Text.pieces '\n' rest = parts at ih
        generalize Text.pieces '\n' (withReturns rest) = others at ih
        cases ih with
        | nil => exact .cons (.inl rfl) .nil
        | cons hfirst hothers =>
            exact .cons (hfirst.imp (congrArg (c :: ·)) (congrArg (c :: ·))) hothers

/-- A carriage return at the end of a line is part of no declaration. -/
theorem ofLine?_concat_return (line : List Char) :
    Declaration.ofLine? (line ++ ['\r']) = Declaration.ofLine? line := by
  have hgap : isGap '\r' = false := by decide
  have hword : Text.isWordChar '\r' = false := by decide
  have hvalue : ∀ rest,
      Text.trim (uncommented (rest ++ ['\r'])) = Text.trim (uncommented rest) := by
    intro rest
    rcases uncommented_concat (by decide : '\r' ≠ '/') (by decide : '\r' ≠ '*') rest with h | h
    · rw [h]
    · rw [h, trim_concat (by decide)]
  unfold Declaration.ofLine?
  rw [dropWhile_concat hgap, afterWord?_concat (by decide)]
  cases afterWord? "#" (line.dropWhile isGap) with
  | none => rfl
  | some afterHash =>
      simp only [Option.map_some, Option.bind_eq_bind, Option.bind_some]
      rw [dropWhile_concat hgap, afterWord?_concat (by decide)]
      cases afterWord? "define" (afterHash.dropWhile isGap) with
      | none => rfl
      | some afterDefine =>
          simp only [Option.map_some, Option.bind_some, dropWhile_concat hgap,
            dropWhile_concat hword, takeWhile_concat hword, hvalue, List.length_append,
            Nat.add_lt_add_iff_right]

/-- A text declares the same values with and without carriage returns. -/
theorem declaredValues_withReturns (dimension : Dimension) (text : List Char) :
    declaredValues dimension (withReturns text) = declaredValues dimension text := by
  have hlines : ∀ {parts others : List (List Char)}, List.Forall₂ MayEndInReturn parts others →
      others.filterMap Declaration.ofLine? = parts.filterMap Declaration.ofLine? := by
    intro parts others h
    induction h with
    | nil => rfl
    | cons hline _ ih =>
        rcases hline with rfl | rfl
        · rw [List.filterMap_cons, List.filterMap_cons, ih]
        · rw [List.filterMap_cons, List.filterMap_cons, ofLine?_concat_return, ih]
  rw [declaredValues, declaredValues, hlines (lines_withReturns text)]

theorem scanDimension_withReturns (dimension : Dimension) (text : List Char) :
    scanDimension dimension (withReturns text) = scanDimension dimension text := by
  rw [scanDimension, scanDimension, declaredValues_withReturns]

theorem declaredSize_withReturns (text : List Char) :
    declaredSize (withReturns text) = declaredSize text := by
  simp only [declaredSize, requireDimension, scanDimension_withReturns]

/-! ## Blocks -/

/-- Blocks at the same place whose bodies differ in blanks only. -/
structure Block.Alike (block other : Block) : Prop where
  position_eq : block.position = other.position
  squeeze_eq : squeeze block.body.toList = squeeze other.body.toList

/-- Open blocks at the same place in which blanks only make a difference. -/
structure OpenBlock.Alike (block other : OpenBlock) : Prop where
  position_eq : block.position = other.position
  squeeze_eq : squeeze block.seen = squeeze other.seen

theorem OpenBlock.Alike.close {block other : OpenBlock} (h : block.Alike other) :
    block.close.Alike other.close where
  position_eq := h.position_eq
  squeeze_eq := by
    have hreverse := congrArg List.reverse h.squeeze_eq
    simpa [OpenBlock.close, squeeze] using hreverse

namespace Scanner

/-- Scanners at the same place that differ in the blanks of blocks only. -/
structure Alike (scanner other : Scanner) : Prop where
  position_eq : scanner.position = other.position
  depth_eq : scanner.depth = other.depth
  opened : Option.Rel OpenBlock.Alike scanner.opened other.opened
  found : List.Forall₂ Block.Alike scanner.found other.found

theorem Alike.refl_start : start.Alike start :=
  ⟨rfl, rfl, .none, .nil⟩

/-- One character more keeps scanners alike. -/
theorem Alike.step {scanner other : Scanner} (h : scanner.Alike other) (c : Char) :
    EndAlike Alike (scanner.step c) (other.step c) := by
  rcases scanner with ⟨position, depth, opened, found⟩
  rcases other with ⟨position', depth', opened', found'⟩
  obtain ⟨rfl, rfl, hopened, hfound⟩ := h
  unfold Scanner.step
  split
  · exact .value ⟨rfl, rfl, .some ⟨rfl, rfl⟩, hfound⟩
  · split
    · cases depth with
      | zero => exact .failure _
      | succ depth =>
          cases hopened with
          | none => exact .value ⟨rfl, rfl, .none, hfound⟩
          | some hblock => exact .value ⟨rfl, rfl, .none, .cons hblock.close hfound⟩
    · refine .value ⟨rfl, rfl, ?_, hfound⟩
      cases hopened with
      | none => exact .none
      | some hblock =>
          refine .some ⟨hblock.position_eq, ?_⟩
          have hsqueeze := hblock.squeeze_eq
          simp only [squeeze, List.filter_cons] at hsqueeze ⊢
          rw [hsqueeze]

/-- A line feed with a carriage return before it keeps scanners alike. -/
theorem Alike.step_newline {scanner other : Scanner} (h : scanner.Alike other) :
    EndAlike Alike (scanner.step '\n') (other.step '\r' >>= fun next => next.step '\n') := by
  rcases scanner with ⟨position, depth, opened, found⟩
  rcases other with ⟨position', depth', opened', found'⟩
  obtain ⟨rfl, rfl, hopened, hfound⟩ := h
  -- The column of the carriage return does not outlast the line feed.
  refine .value ⟨rfl, rfl, ?_, hfound⟩
  cases hopened with
  | none => exact .none
  | some hblock => exact .some ⟨hblock.position_eq, hblock.squeeze_eq⟩

/-- Carriage returns before line feeds keep the passes over a text alike. -/
theorem Alike.run {scanner other : Scanner} (h : scanner.Alike other) (text : List Char) :
    EndAlike Alike (text.foldlM Scanner.step scanner)
      ((withReturns text).foldlM Scanner.step other) := by
  induction text generalizing scanner other with
  | nil => exact .value h
  | cons c rest ih =>
      by_cases hc : c = '\n'
      · subst hc
        rw [withReturns_cons_newline, List.foldlM_cons, List.foldlM_cons]
        simp only [List.foldlM_cons, ← bind_assoc]
        exact h.step_newline.bind fun _ _ hnext => ih hnext
      · rw [withReturns_cons_of_ne hc, List.foldlM_cons, List.foldlM_cons]
        exact (h.step c).bind fun _ _ hnext => ih hnext

theorem Alike.finish {scanner other : Scanner} (h : scanner.Alike other) :
    EndAlike (List.Forall₂ Block.Alike) scanner.finish other.finish := by
  unfold Scanner.finish
  rw [h.depth_eq]
  split
  · exact .value (List.rel_reverse h.found)
  · exact .failure _

end Scanner

/-- A text has the same blocks, up to blanks, or the same fault, with and without returns. -/
theorem innermostBlocks_withReturns (text : String) :
    EndAlike (List.Forall₂ Block.Alike) (innermostBlocks text)
      (innermostBlocks (String.ofList (withReturns text.toList))) := by
  unfold innermostBlocks
  rw [String.toList_ofList]
  exact (Scanner.Alike.refl_start.run text.toList).bind fun _ _ => Scanner.Alike.finish

/-! ## Documents -/

/-- Blanks make no difference to the literals of a block. -/
theorem splitTokens_of_squeeze_eq {body other : List Char} (h : squeeze body = squeeze other) :
    splitTokens body = splitTokens other := by
  rw [splitTokens, h, splitTokens]

theorem decode_of_alike (settings : Settings) (index size : Int) {block other : Block}
    (h : block.Alike other) :
    Glyph.decode settings index size block.position.line block.body =
      Glyph.decode settings index size other.position.line other.body := by
  rw [Glyph.decode, Glyph.decode, h.position_eq, splitTokens_of_squeeze_eq h.squeeze_eq]

/-- Blocks that differ in blanks only hold the same pictures. -/
theorem decodeBlocks_of_alike (settings : Settings) (size : Int) {blocks others : List Block}
    (h : List.Forall₂ Block.Alike blocks others) :
    decodeBlocks settings size blocks = decodeBlocks settings size others :=
  mapM_zipIdx_congr h fun _ _ index hblock => decode_of_alike settings index size hblock

theorem extractGlyphs_withReturns (settings : Settings) (text : String) (size : Int) :
    extractGlyphs settings (String.ofList (withReturns text.toList)) size =
      extractGlyphs settings text size := by
  have hblocks := innermostBlocks_withReturns text
  unfold extractGlyphs
  generalize innermostBlocks text = blocks at hblocks
  generalize innermostBlocks (String.ofList (withReturns text.toList)) = others at hblocks
  cases hblocks with
  | failure cause => rfl
  | value halike =>
      change Traced.quiet (decodeBlocks settings size _) >>= _ =
        Traced.quiet (decodeBlocks settings size _) >>= _
      rw [decodeBlocks_of_alike settings size halike]

/--
Whether lines end with a line feed alone or with a carriage return before it makes no difference:
a sheet declares the same size and the same number of icons, and compiling it ends with the same
document or the same failure, its position included, after the same records.
-/
theorem returns_unnoticed (text : String) :
    scanSize (String.ofList (withReturns text.toList)) = scanSize text ∧
      scanCount (String.ofList (withReturns text.toList)) = scanCount text ∧
      ∀ settings obstacle size source,
        compile settings obstacle ⟨String.ofList (withReturns text.toList), size, source⟩ =
          compile settings obstacle ⟨text, size, source⟩ := by
  have hcount : scanCount (String.ofList (withReturns text.toList)) = scanCount text := by
    rw [scanCount, scanCount, String.toList_ofList, scanDimension_withReturns]
  refine ⟨?_, hcount, ?_⟩
  · rw [scanSize, scanSize, String.toList_ofList, declaredSize_withReturns]
  · intro settings obstacle size source
    simp only [compile, checkCount, hcount, extractGlyphs_withReturns]

end IconPress
