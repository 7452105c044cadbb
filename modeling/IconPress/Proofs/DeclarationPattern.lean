import IconPress.Proofs.DeclarationLines
import IconPress.Text.Pattern
import Mathlib.Data.List.Basic

/-!
# Declarations found by a pattern

The declarations of a text can also be found by searching it with a pattern.  The name in the
pattern begins with any word characters, which may well hold the ending that is looked for; the
edge of the word behind the ending leaves one way to match.  This module shows that the search
finds what reading the text line by line finds.

Main definitions:

- `declarationPattern`: the pattern of a declaration.
- `foundValues`: the values of the declarations that the pattern finds.

Main results:

- `exists_written_of_match` and `Written.run_pattern`: the pattern matches the lines that declare a
  dimension, as wholes.
- `foundValues_eq`: the values found are the ones that are read.
-/

namespace IconPress

open Text (Cursor Groups Pattern bordersLine isWordChar)
open Text.Pattern

/-! ## The pattern -/

/-- The value and the space in front of it, up to the end of the line. -/
def valuePattern : Pattern :=
  follow (many isGap) (follow (group 2 (many (· != '\n'))) lineEnd)

/-- The word for one of the dimensions. -/
def dimensionPattern : Pattern :=
  either (word (Dimension.name .width).toList)
    (either (word (Dimension.name .height).toList) (word (Dimension.name .count).toList))

/-- The end of a declared name, where a word has to end, and the value. -/
def endingPattern : Pattern :=
  follow (word "_FRAME_".toList) (follow (group 1 dimensionPattern) (follow wordEdge valuePattern))

/-- A line that declares a dimension. -/
def declarationPattern : Pattern :=
  follow lineStart (follow (many isGap) (follow (word "#".toList) (follow (many isGap)
    (follow (word "define".toList) (follow (one isGap) (follow (many isGap)
      (follow (many isWordChar) endingPattern)))))))

/-- The value in a match, if it is about a dimension. -/
def valueOfMatch? (dimension : Dimension) (groups : Groups) : Option (List Char) :=
  if groups.lookup 1 = some dimension.name.toList then
    (groups.lookup 2).map fun value => Text.trim (uncommented value)
  else
    none

/-- The values of a dimension that the pattern finds in a text, in order. -/
def foundValues (dimension : Dimension) (text : List Char) : List (List Char) :=
  (declarationPattern.findAll text).filterMap fun stop => valueOfMatch? dimension stop.groups

/-! ## Endings -/

section Endings

variable {before after rest : List Char} {groups : Groups} {stop : Cursor}

/-- A match of a dimension begins with its word. -/
theorem run_dimension_eq_some {next : Cursor → Option Cursor}
    (h : dimensionPattern.run next ⟨before, after, groups⟩ = some stop) :
    ∃ (dimension : Dimension) (rest : List Char), after = dimension.name.toList ++ rest ∧
      next ⟨dimension.name.toList.reverse ++ before, rest, groups⟩ = some stop := by
  rcases run_either_eq_some h with h | h
  · exact ⟨.width, run_word_eq_some h⟩
  · rcases run_either_eq_some h with h | h
    · exact ⟨.height, run_word_eq_some h⟩
    · exact ⟨.count, run_word_eq_some h⟩

/-- The word for a dimension is matched where it stands. -/
theorem run_dimension_append {next : Cursor → Option Cursor} (dimension : Dimension)
    (h : next ⟨dimension.name.toList.reverse ++ before, rest, groups⟩ = some stop) :
    dimensionPattern.run next ⟨before, dimension.name.toList ++ rest, groups⟩ = some stop := by
  unfold dimensionPattern
  cases dimension with
  | width => exact run_either_of_first (run_word_append _ ▸ h)
  | height =>
      rw [run_either_of_none (by rfl)]
      exact run_either_of_first (run_word_append _ ▸ h)
  | count =>
      rw [run_either_of_none (by rfl), run_either_of_none (by rfl), run_word_append]
      exact h

theorem nameEnd_eq (dimension : Dimension) :
    Declaration.nameEnd dimension = "_FRAME_".toList ++ dimension.name.toList :=
  String.toList_append

/-- Behind the word for a dimension, a word ends where no word character follows. -/
theorem isWordEdge_iff (dimension : Dimension) :
    (⟨dimension.name.toList.reverse ++ before, rest, groups⟩ : Cursor).isWordEdge = true ↔
      ∀ c ∈ rest.head?, isWordChar c = false := by
  have hlast : (dimension.name.toList.reverse ++ before).head?.any isWordChar = true := by
    cases dimension <;> rfl
  rw [Cursor.isWordEdge, hlast]
  cases rest <;> simp

/-- Where an ending matches, a dimension is named, and the word ends there. -/
theorem exists_nameEnd_of_match
    (h : endingPattern.run some ⟨before, after, groups⟩ = some stop) :
    ∃ (dimension : Dimension) (rest : List Char),
      after = Declaration.nameEnd dimension ++ rest ∧ ∀ c ∈ rest.head?, isWordChar c = false := by
  rw [endingPattern, run_follow] at h
  rcases run_word_eq_some h with ⟨afterFrame, hafter, hframe⟩
  rw [run_follow, run_group] at hframe
  rcases run_dimension_eq_some hframe with ⟨dimension, rest, hrest, hname⟩
  rw [Cursor.capture_append, run_follow] at hname
  refine ⟨dimension, rest, by rw [hafter, hrest, nameEnd_eq, List.append_assoc], ?_⟩
  exact (isWordEdge_iff dimension).1 (run_wordEdge_eq_some hname).1

/-- A class without the line feed stops at the end of a line. -/
theorem stop_at_lineEnd {p : Char → Bool} (hp : p '\n' = false)
    (hrest : bordersLine rest = true) : ∀ c ∈ rest.head?, p c = false := by
  cases rest with
  | nil => simp
  | cons c others =>
      rw [Text.bordersLine_cons, beq_iff_eq] at hrest
      simpa [hrest] using hp

theorem stop_within_line {p : Char → Bool} {line : List Char} (hp : p '\n' = false)
    (hline : ∀ c ∈ line.head?, p c = false) (hrest : bordersLine rest = true) :
    ∀ c ∈ (line ++ rest).head?, p c = false := by
  cases line with
  | nil => exact stop_at_lineEnd hp hrest
  | cons first others => simpa using hline

/-- The rest of a line is matched as space and a value. -/
theorem run_value (before : List Char) {line : List Char} (groups : Groups) (hline : '\n' ∉ line)
    (hrest : bordersLine rest = true) :
    valuePattern.run some ⟨before, line ++ rest, groups⟩ =
      some ⟨line.reverse ++ before, rest, (2, line.dropWhile isGap) :: groups⟩ := by
  have hvalue : '\n' ∉ line.dropWhile isGap := fun hmem =>
    hline ((List.dropWhile_suffix isGap).subset hmem)
  have hsplit : line.takeWhile isGap ++ (line.dropWhile isGap ++ rest) = line ++ rest := by
    rw [← List.append_assoc, List.takeWhile_append_dropWhile]
  have hpassed : (line.dropWhile isGap).reverse ++ ((line.takeWhile isGap).reverse ++ before) =
      line.reverse ++ before := by
    rw [← List.append_assoc, ← List.reverse_append, List.takeWhile_append_dropWhile]
  rw [valuePattern, run_follow, ← hsplit]
  refine run_many_of_rest (fun c => List.mem_takeWhile_imp)
    (stop_within_line (by rfl) (fun c => not_of_mem_head?_dropWhile) hrest) ?_
  rw [run_follow, run_group]
  refine run_many_of_rest (fun c hc => ?_) (stop_at_lineEnd (by rfl) hrest) ?_
  · simpa using fun hc' : c = '\n' => hvalue (hc' ▸ hc)
  · rw [Cursor.capture_append, hpassed, run_lineEnd, Cursor.isLineEnd, hrest, if_pos rfl]

/-- An ending is matched where a dimension is named and the word ends. -/
theorem run_ending (before : List Char) (dimension : Dimension) {line : List Char}
    (groups : Groups) (hword : ∀ c ∈ line.head?, isWordChar c = false) (hline : '\n' ∉ line)
    (hrest : bordersLine rest = true) :
    endingPattern.run some ⟨before, Declaration.nameEnd dimension ++ (line ++ rest), groups⟩ =
      some ⟨(Declaration.nameEnd dimension ++ line).reverse ++ before, rest,
        [(2, line.dropWhile isGap), (1, dimension.name.toList)] ++ groups⟩ := by
  have hedge := stop_within_line (by rfl) hword hrest
  rw [nameEnd_eq, List.append_assoc, endingPattern, run_follow, run_word_append, run_follow,
    run_group]
  apply run_dimension_append
  rw [Cursor.capture_append, run_follow, run_wordEdge, if_pos ((isWordEdge_iff dimension).2 hedge),
    run_value _ _ hline hrest]
  simp

/-- The beginning of a name leaves the ending that the name has. -/
theorem run_name (before : List Char) (dimension : Dimension) {stem line : List Char}
    (groups : Groups) (hstem : ∀ c ∈ stem, isWordChar c = true)
    (hword : ∀ c ∈ line.head?, isWordChar c = false) (hline : '\n' ∉ line)
    (hrest : bordersLine rest = true) :
    (follow (many isWordChar) endingPattern).run some
        ⟨before, stem ++ (Declaration.nameEnd dimension ++ (line ++ rest)), groups⟩ =
      some ⟨(stem ++ Declaration.nameEnd dimension ++ line).reverse ++ before, rest,
        [(2, line.dropWhile isGap), (1, dimension.name.toList)] ++ groups⟩ := by
  have hstop := stop_within_line (by rfl) hword hrest
  have hall : ∀ c ∈ stem ++ Declaration.nameEnd dimension, isWordChar c = true :=
    fun c => isWordChar_of_mem_name hstem
  rw [run_follow]
  refine run_many_of_stop hall hstop ?_ ?_
  · rw [run_ending _ dimension groups hword hline hrest]
    simp
  · -- Taking other characters leaves no ending: a word would not end behind it.
    intro more fewer heq hother
    rw [Option.eq_none_iff_forall_ne_some]
    intro stop hmatch
    rcases exists_nameEnd_of_match hmatch with ⟨other, later, hsplit, hlater⟩
    have hfewer : ∀ c ∈ fewer, isWordChar c = true := fun c hc =>
      hall c (heq ▸ List.mem_append_right more hc)
    have hending : fewer = Declaration.nameEnd other := by
      have htaken := congrArg (List.takeWhile isWordChar) hsplit
      rwa [takeWhile_run hfewer hstop,
        takeWhile_run (fun c => isWordChar_of_mem_nameEnd) hlater] at htaken
    have hsuffix : Declaration.nameEnd other <:+ stem ++ Declaration.nameEnd dimension := by
      rw [heq, ← hending]
      exact List.suffix_append more fewer
    rw [(nameEnd_suffix_iff stem).1 hsuffix] at hother
    exact hother hending

end Endings

/-! ## Lines -/

section Lines

variable {dimension : Dimension} {before line front after rest : List Char} {stop : Cursor}

/-- What holds no line feed and begins on a line stays within it. -/
theorem exists_within_line (hfront : '\n' ∉ front) (hrest : bordersLine rest = true)
    (h : line ++ rest = front ++ after) : ∃ more, line = front ++ more ∧ after = more ++ rest := by
  rcases List.append_eq_append_iff.1 h with ⟨more, hfrontSplit, hrestSplit⟩ | hwithin
  · cases more with
    | nil =>
        rw [List.append_nil] at hfrontSplit
        exact ⟨[], by rw [hfrontSplit, List.append_nil], by simpa using hrestSplit.symm⟩
    | cons first others =>
        rw [hrestSplit, List.cons_append, Text.bordersLine_cons, beq_iff_eq] at hrest
        exact absurd (by simp [hfrontSplit, hrest]) hfront
  · exact hwithin

/-- A line that declares a dimension is matched as a whole. -/
theorem Written.run_pattern (h : Written dimension line after)
    (hbefore : bordersLine before = true) (hline : '\n' ∉ line)
    (hrest : bordersLine rest = true) :
    declarationPattern.run some ⟨before, line ++ rest, []⟩ =
      some ⟨line.reverse ++ before, rest,
        [(2, after.dropWhile isGap), (1, dimension.name.toList)]⟩ := by
  rcases h with ⟨hindent, hgap, hspace, hapart, hstem, hword⟩
  rename_i indent gap space stem
  rcases List.exists_cons_of_ne_nil hapart with ⟨first, others, rfl⟩
  rw [List.forall_mem_cons] at hspace
  have hafter : '\n' ∉ after := fun hmem => hline (by simp [hmem])
  have hname := @isGap_of_mem_head? dimension (after ++ rest) stem hstem
  rw [List.append_assoc] at hname
  simp only [List.append_assoc, List.cons_append]
  rw [declarationPattern, run_follow, run_lineStart, Cursor.isLineStart, hbefore, if_pos rfl, run_follow]
  refine run_many_of_rest hindent (by simp; decide) ?_
  rw [run_follow, run_word_append, run_follow]
  refine run_many_of_rest hgap (by simp; decide) ?_
  rw [run_follow, run_word_append, run_follow, run_one_cons hspace.1, run_follow]
  refine run_many_of_rest hspace.2 hname ?_
  rw [run_name _ dimension [] hstem hword hafter hrest]
  simp

/-- Where the pattern matches, a declaration is written. -/
theorem exists_written_of_match {text : List Char}
    (h : declarationPattern.run some ⟨before, text, []⟩ = some stop) :
    ∃ dimension after, Written dimension text after := by
  rw [declarationPattern, run_follow] at h
  have hstart := run_lineStart_eq_some h
  rw [run_follow] at hstart
  rcases run_many_eq_some hstart with ⟨indent, afterIndent, htext, hindent, hmark⟩
  rw [run_follow] at hmark
  rcases run_word_eq_some hmark with ⟨afterMark, rfl, hafterMark⟩
  rw [run_follow] at hafterMark
  rcases run_many_eq_some hafterMark with ⟨gap, afterGap, rfl, hgap, hdefine⟩
  rw [run_follow] at hdefine
  rcases run_word_eq_some hdefine with ⟨afterDefine, rfl, hafterDefine⟩
  rw [run_follow] at hafterDefine
  rcases run_one_eq_some hafterDefine with ⟨first, afterFirst, rfl, hfirst, hafterFirst⟩
  rw [run_follow] at hafterFirst
  rcases run_many_eq_some hafterFirst with ⟨others, afterSpace, rfl, hothers, hname⟩
  rw [run_follow] at hname
  rcases run_many_eq_some hname with ⟨stem, afterStem, rfl, hstem, hending⟩
  rcases exists_nameEnd_of_match hending with ⟨dimension, after, rfl, hafter⟩
  have hspace : ∀ c ∈ first :: others, isGap c = true := List.forall_mem_cons.2 ⟨hfirst, hothers⟩
  have hwritten : text = indent ++ ("#".toList ++ (gap ++ ("define".toList ++ (first :: others ++
      (stem ++ Declaration.nameEnd dimension ++ after))))) := by
    rw [htext, List.append_assoc stem, List.cons_append]
  refine ⟨dimension, after, ?_⟩
  rw [hwritten]
  exact .line hindent hgap hspace (by simp) hstem hafter

/-- A declaration that begins on a line is a declaration on that line. -/
theorem Written.within_line (h : Written dimension (line ++ rest) after)
    (hrest : bordersLine rest = true) : ∃ more, Written dimension line more := by
  generalize htext : line ++ rest = text at h
  rcases h with ⟨hindent, hgap, hspace, hapart, hstem, hword⟩
  rename_i indent gap space stem
  have hclass : ∀ {p : Char → Bool} {part : List Char}, p '\n' = false →
      (∀ c ∈ part, p c = true) → '\n' ∉ part := fun hp hpart hmem =>
    absurd (hp.symm.trans (hpart _ hmem)) (by decide)
  have hfront : '\n' ∉ indent ++ ("#".toList ++ (gap ++ ("define".toList ++ (space ++
      (stem ++ Declaration.nameEnd dimension))))) := by
    have hdefine : '\n' ∉ "define".toList := by decide
    simp only [List.mem_append, not_or]
    exact ⟨hclass rfl hindent, by decide, hclass rfl hgap, hdefine, hclass rfl hspace,
      hclass rfl hstem, hclass rfl fun c => isWordChar_of_mem_nameEnd⟩
  have hsplit : line ++ rest = indent ++ ("#".toList ++ (gap ++ ("define".toList ++ (space ++
      (stem ++ Declaration.nameEnd dimension))))) ++ after := by
    simp only [htext, List.append_assoc]
  rcases exists_within_line hfront hrest hsplit with ⟨more, rfl, rfl⟩
  have hstop : ∀ c ∈ more.head?, isWordChar c = false := by
    cases more with
    | nil => simp
    | cons last others => simpa using hword
  refine ⟨more, ?_⟩
  simp only [List.append_assoc]
  rw [← List.append_assoc stem]
  exact .line hindent hgap hspace hapart hstem hstop

/-- Other lines are not matched. -/
theorem run_pattern_eq_none (hrest : bordersLine rest = true)
    (h : ¬∃ dimension after, Written dimension line after) :
    declarationPattern.run some ⟨before, line ++ rest, []⟩ = none := by
  rw [Option.eq_none_iff_forall_ne_some]
  intro stop hmatch
  rcases exists_written_of_match hmatch with ⟨dimension, after, hwritten⟩
  exact h ⟨dimension, hwritten.within_line hrest⟩

/-- What the pattern captures of a line. -/
def readMatch (line : List Char) : Option Groups :=
  (declarationPattern.run some ⟨[], line ++ [], []⟩).map Cursor.groups

/-- The pattern matches lines only, each as a whole. -/
theorem readsLines_declarationPattern : declarationPattern.ReadsLines readMatch where
  anchored before after hbefore := by
    rw [declarationPattern, run_follow, run_lineStart, Cursor.isLineStart, hbefore]
    rfl
  read_nil := rfl
  whole before line rest hbefore hline hrest := by
    unfold readMatch
    by_cases hwritten : ∃ dimension after, Written dimension line after
    · rcases hwritten with ⟨dimension, after, hwritten⟩
      rw [hwritten.run_pattern hbefore hline hrest, hwritten.run_pattern (by rfl) hline (by rfl)]
      rfl
    · rw [run_pattern_eq_none hrest hwritten, run_pattern_eq_none (by rfl) hwritten]
      rfl

/-- The value in the match of a line is the one that is read of the line. -/
theorem readMatch_bind (dimension : Dimension) (hline : '\n' ∉ line) :
    (readMatch line).bind (valueOfMatch? dimension) = readLine? dimension line := by
  unfold readMatch
  by_cases hwritten : ∃ other after, Written other line after
  · rcases hwritten with ⟨other, after, hwritten⟩
    rcases hwritten.ofLine? with ⟨stem, hread⟩
    have hname : other.name.toList = dimension.name.toList ↔ other = dimension := by
      cases other <;> cases dimension <;> decide
    rw [hwritten.run_pattern (by rfl) hline (by rfl), readLine?, hread]
    have hfirst : List.lookup 1 [(2, after.dropWhile isGap), (1, other.name.toList)] =
        some other.name.toList := rfl
    have hsecond : List.lookup 2 [(2, after.dropWhile isGap), (1, other.name.toList)] =
        some (after.dropWhile isGap) := rfl
    simp only [Option.map_some, Option.bind_some, valueOfMatch?, hfirst, hsecond,
      Declaration.declares, List.isSuffixOf_iff_suffix, nameEnd_suffix_iff, Option.some.injEq,
      hname, trim_uncommented_dropWhile]
  · rw [run_pattern_eq_none (by rfl) hwritten, Option.map_none, Option.bind_none, eq_comm,
      Option.eq_none_iff_forall_ne_some]
    intro value hvalue
    rcases declares_iff.2 hvalue with ⟨after, hafter, -⟩
    exact hwritten ⟨dimension, after, hafter⟩

/-- Searching a text with the pattern finds the values that are read line by line. -/
theorem foundValues_eq (dimension : Dimension) (text : List Char) :
    foundValues dimension text = declaredValues dimension text := by
  have hgroups := readsLines_declarationPattern.groups_findAll text
  calc foundValues dimension text
      = ((declarationPattern.findAll text).map Cursor.groups).filterMap
          (valueOfMatch? dimension) := by rw [foundValues, List.filterMap_map]; rfl
    _ = (Text.lines text).filterMap fun line =>
          (readMatch line).bind (valueOfMatch? dimension) := by
        rw [hgroups, List.filterMap_filterMap]
    _ = (Text.lines text).filterMap (readLine? dimension) := by
        refine List.filterMap_congr fun line hmem => readMatch_bind dimension ?_
        exact Text.not_mem_of_mem_pieces hmem
    _ = declaredValues dimension text := (declaredValues_eq dimension text).symm

end Lines
end IconPress
