import IconPress.Icon.Preview
import IconPress.Proofs.Packing
import IconPress.Proofs.Settings
import Mathlib.Data.List.Chain

/-!
# Drawings as comments

The drawing of an icon is meant to be a comment of the generated source.  Comments nest there, so a
slash beside an asterisk closes the comment early or opens another one inside it.  The characters
of a drawing are chosen freely, and this module says which choices keep every drawing one comment.

Main definitions:

- `afterComment`: the reader of nested comments.
- `IsComment` and `DrawnAsComment`: texts and drawings that are one comment.

Main results:

- `afterComment_of_isChain`: a comment ends at the first asterisk that meets a slash.
- `drawnAsComment_iff`: when all drawings of a size are comments.
-/

namespace IconPress

/-! ## Nested comments -/

/--
What follows a comment of which the beginning has been read, when so many further comments are open
inside it; nothing if the comment does not end.
-/
def afterComment : Nat → List Char → Option (List Char)
  | depth, '/' :: '*' :: rest => afterComment (depth + 1) rest
  | 0, '*' :: '/' :: rest => some rest
  | depth + 1, '*' :: '/' :: rest => afterComment depth rest
  | depth, _ :: rest => afterComment depth rest
  | _, [] => none

/-- A text that is one comment and nothing else. -/
def IsComment (text : List Char) : Prop :=
  ∃ body, text = '/' :: '*' :: body ∧ afterComment 0 body = some []

/-- Two characters that neither open nor close a comment together. -/
def Apart (c next : Char) : Prop :=
  (c = '/' → next ≠ '*') ∧ (c = '*' → next ≠ '/')

theorem apart_of_plain {c other : Char} (hslash : c ≠ '/') (hstar : c ≠ '*') :
    Apart c other ∧ Apart other c :=
  ⟨⟨fun h => absurd h hslash, fun h => absurd h hstar⟩, ⟨fun _ => hstar, fun _ => hslash⟩⟩

section Reader

variable {depth : Nat} {front rest : List Char}

/-- A character that has nothing to do with the next one is skipped. -/
theorem afterComment_cons_cons {c next : Char} (h : Apart c next) :
    afterComment depth (c :: next :: rest) = afterComment depth (next :: rest) := by
  rw [afterComment.eq_def]
  split
  · simp_all [Apart]
  · simp_all [Apart]
  · simp_all [Apart]
  · simp_all
  · simp_all

/-- A comment ends at the first asterisk that meets a slash. -/
theorem afterComment_of_isChain (h : (front ++ ['*']).IsChain Apart) :
    afterComment 0 (front ++ '*' :: '/' :: rest) = some rest := by
  induction front with
  | nil => simp [afterComment]
  | cons c front ih =>
      cases front with
      | nil =>
          rw [List.cons_append, List.nil_append, List.isChain_cons_cons] at h
          simp [afterComment_cons_cons h.1, afterComment]
      | cons next front =>
          rw [List.cons_append, List.cons_append, List.isChain_cons_cons] at h
          rw [List.cons_append, List.cons_append, afterComment_cons_cons h.1]
          exact ih h.2

/-- Two characters that are not apart open a comment or close one. -/
theorem eq_of_not_apart {c next : Char} (h : ¬Apart c next) :
    (c = '/' ∧ next = '*') ∨ (c = '*' ∧ next = '/') := by
  unfold Apart at h
  tauto

/-- Two slashes in front of it keep the last end of a text from closing it. -/
theorem afterComment_slashes_ne (text : List Char) :
    afterComment depth (text ++ ['/', '/', '*', '/']) ≠ some [] := by
  -- Characters that belong together are passed at once, so the induction takes two at a time.
  induction text using List.twoStepInduction generalizing depth with
  | nil => cases depth <;> simp [afterComment]
  | singleton c =>
      by_cases hclose : c = '*'
      · subst hclose
        cases depth <;> simp [afterComment]
      · have hapart : Apart c '/' := ⟨fun _ => by decide, fun heq => absurd heq hclose⟩
        rw [List.singleton_append, afterComment_cons_cons hapart]
        cases depth <;> simp [afterComment]
  | cons_cons c next text ih ihnext =>
      by_cases hapart : Apart c next
      · rw [List.cons_append, List.cons_append, afterComment_cons_cons hapart]
        exact ihnext next
      · rcases eq_of_not_apart hapart with ⟨rfl, rfl⟩ | ⟨rfl, rfl⟩
        · simpa [afterComment] using ih
        · cases depth with
          | zero => simp [afterComment]
          | succ depth => simpa [afterComment] using ih

end Reader

/-! ## Texts without slashes beside asterisks -/

section Chains

variable {text front : List Char}

theorem isChain_of_not_slash_mem (h : '/' ∉ text) : text.IsChain Apart := by
  refine (List.pairwise_of_forall_mem_list fun c hc next hnext => ?_).isChain
  exact ⟨fun heq => absurd (heq ▸ hc) h, fun _ heq => h (heq ▸ hnext)⟩

theorem isChain_of_not_star_mem (h : '*' ∉ text) : text.IsChain Apart := by
  refine (List.pairwise_of_forall_mem_list fun c hc next hnext => ?_).isChain
  exact ⟨fun _ heq => h (heq ▸ hnext), fun heq => absurd (heq ▸ hc) h⟩

/-- A character that is neither a slash nor an asterisk keeps what it stands between apart. -/
theorem isChain_append_cons {c : Char} (hslash : c ≠ '/') (hstar : c ≠ '*')
    (hfront : front.IsChain Apart) (htext : text.IsChain Apart) :
    (front ++ c :: text).IsChain Apart := by
  rw [List.isChain_append]
  refine ⟨hfront, ?_, fun last _ first hfirst => ?_⟩
  · cases text with
    | nil => exact .singleton c
    | cons next rest => exact htext.cons_cons (apart_of_plain hslash hstar).1
  · obtain rfl : c = first := by simpa using hfirst
    exact (apart_of_plain hslash hstar).2

/-- Lines that are put under each other meet at the ends of lines only. -/
theorem isChain_append_lines {lines : List (List Char)} (hfront : front.IsChain Apart)
    (hlines : ∀ line ∈ lines, line.IsChain Apart) :
    (front ++ lines.flatMap ('\n' :: ·)).IsChain Apart := by
  induction lines generalizing front with
  | nil => simpa using hfront
  | cons line rest ih =>
      have hline := hlines line List.mem_cons_self
      have hnext := isChain_append_cons (by decide : '\n' ≠ '/') (by decide) hfront hline
      rw [List.flatMap_cons, ← List.append_assoc]
      exact ih hnext fun other hother => hlines other (List.mem_cons_of_mem line hother)

end Chains

/-! ## Drawings -/

/-- The drawing of a picture is one comment behind the space in front of it. -/
def DrawnAsComment (settings : Settings) (glyph : Glyph) (size level : Int) : Prop :=
  let drawing := drawGlyph settings glyph size (Layout.ofSize size).padding level
  ∃ comment, ("\n".intercalate drawing).toList = (indent level).toList ++ comment ∧
    IsComment comment

/-- What a drawing holds between the first two of its characters and the last two. -/
def drawnBody (settings : Settings) (glyph : Glyph) (size padding level : Int) : List Char :=
  let border := (repeated settings.borderChar (size + padding * 2 + 1)).toList
  border ++ (glyph.rows.map fun row => (drawRow settings padding level row).toList).flatMap
    ('\n' :: ·) ++ '\n' :: ((indent level).toList ++ ' ' :: border)

theorem intercalate_newline (line : List Char) (lines : List (List Char)) :
    ['\n'].intercalate (line :: lines) = line ++ lines.flatMap ('\n' :: ·) := by
  induction lines generalizing line with
  | nil => simp
  | cons next rest ih => simp [ih]

theorem drawnAsComment_iff_body {settings : Settings} {glyph : Glyph} {size level : Int} :
    DrawnAsComment settings glyph size level ↔
      afterComment 0 (drawnBody settings glyph size (Layout.ofSize size).padding level ++
        ['*', '/']) = some [] := by
  have hdrawing : ("\n".intercalate
      (drawGlyph settings glyph size (Layout.ofSize size).padding level)).toList =
      (indent level).toList ++ '/' :: '*' ::
        (drawnBody settings glyph size (Layout.ofSize size).padding level ++ ['*', '/']) := by
    rw [String.toList_intercalate]
    simp [drawGlyph, drawnBody, intercalate_newline, Function.comp_def]
  constructor
  · rintro ⟨comment, htext, body, rfl, hend⟩
    rw [hdrawing, List.append_cancel_left_eq, List.cons.injEq, List.cons.injEq] at htext
    rw [htext.2.2, hend]
  · exact fun hend => ⟨_, hdrawing, _, rfl, hend⟩

section Drawings

variable {settings : Settings} {glyph : Glyph} {size padding level : Int}

theorem toList_drawRow (row : List Bool) :
    (drawRow settings padding level row).toList = (indent level).toList ++ ' ' :: '*' ::
      (List.replicate padding.toNat settings.blankChar ++ row.map settings.cell ++
        List.replicate padding.toNat settings.blankChar ++ [settings.borderChar]) := by
  simp [drawRow, repeated]

theorem slash_not_mem_indent : '/' ∉ (indent level).toList := by
  simp [indent]

/-- Between the ends of a row stand two characters only. -/
theorem not_mem_cells {c : Char} (hmarker : c ≠ settings.markerChar)
    (hblank : c ≠ settings.blankChar) (row : List Bool) (count : Nat) :
    c ∉ List.replicate count settings.blankChar ++ row.map settings.cell ++
      List.replicate count settings.blankChar := by
  intro hmem
  rw [List.mem_append, List.mem_append, List.mem_replicate, List.mem_map] at hmem
  rcases hmem with (⟨-, heq⟩ | ⟨pixel, -, rfl⟩) | ⟨-, heq⟩
  · exact hblank heq
  · unfold Settings.cell at hmarker hblank
    split at hmarker <;> simp_all
  · exact hblank heq

/-- With blanks at its sides, a row begins and ends with one. -/
theorem toList_drawRow_of_padding {count : Nat} (hcount : padding.toNat = count + 1)
    (row : List Bool) :
    (drawRow settings padding level row).toList =
      ((indent level).toList ++ [' ', '*']) ++ settings.blankChar ::
        ((List.replicate count settings.blankChar ++ row.map settings.cell ++
          List.replicate count settings.blankChar) ++
            settings.blankChar :: [settings.borderChar]) := by
  have hright : List.replicate (count + 1) settings.blankChar ++ [settings.borderChar] =
      List.replicate count settings.blankChar ++ [settings.blankChar, settings.borderChar] := by
    rw [List.replicate_succ', List.append_assoc]
    rfl
  rw [toList_drawRow, hcount, List.append_assoc _ _ [settings.borderChar], hright,
    List.replicate_succ]
  simp

/-- A row in which slashes do not meet asterisks: there are none, or blanks stand around them. -/
theorem isChain_drawRow (hborder : settings.borderChar ≠ '/') (hblank : settings.blankChar ≠ '/')
    (hmarker : settings.markerChar = '/' → 0 < padding ∧ settings.blankChar ≠ '*')
    (row : List Bool) : (drawRow settings padding level row).toList.IsChain Apart := by
  by_cases hslash : settings.markerChar = '/'
  · -- No asterisk is among the cells, and a blank parts them from those at the ends of the row.
    rcases hmarker hslash with ⟨hpadding, hstar⟩
    obtain ⟨count, hcount⟩ : ∃ count, padding.toNat = count + 1 :=
      ⟨padding.toNat - 1, by omega⟩
    have hleft : '/' ∉ (indent level).toList ++ [' ', '*'] := by simp [slash_not_mem_indent]
    have hcells := not_mem_cells (by rw [hslash]; decide) (Ne.symm hstar) row count
    rw [toList_drawRow_of_padding hcount]
    exact isChain_append_cons hblank hstar (isChain_of_not_slash_mem hleft)
      (isChain_append_cons hblank hstar (isChain_of_not_star_mem hcells) (.singleton _))
  · have hcells := not_mem_cells (Ne.symm hslash) (Ne.symm hblank) row padding.toNat
    refine isChain_of_not_slash_mem ?_
    rw [toList_drawRow, List.mem_append, List.mem_cons, List.mem_cons, List.mem_append,
      List.mem_singleton]
    rintro (hmem | heq | heq | hmem | heq)
    · exact slash_not_mem_indent hmem
    · simp at heq
    · simp at heq
    · exact hcells hmem
    · exact hborder heq.symm

theorem isChain_drawnBody (hborder : settings.borderChar ≠ '/')
    (hrows : ∀ row ∈ glyph.rows, (drawRow settings padding level row).toList.IsChain Apart) :
    (drawnBody settings glyph size padding level ++ ['*']).IsChain Apart := by
  have hframe : '/' ∉ (repeated settings.borderChar (size + padding * 2 + 1)).toList := by
    simp [repeated, Ne.symm hborder]
  have hlines : ∀ line ∈ glyph.rows.map fun row => (drawRow settings padding level row).toList,
      line.IsChain Apart := by
    simpa using hrows
  have hend : '/' ∉ (indent level).toList ++
      ' ' :: ((repeated settings.borderChar (size + padding * 2 + 1)).toList ++ ['*']) := by
    simp [slash_not_mem_indent, hframe]
  have hbody := isChain_append_cons (by decide : '\n' ≠ '/') (by decide)
    (isChain_append_lines (isChain_of_not_slash_mem hframe) hlines)
    (isChain_of_not_slash_mem hend)
  simpa [drawnBody] using hbody

/-- A frame of slashes opens a comment at the end of the drawing. -/
theorem not_drawnAsComment_of_border (hborder : settings.borderChar = '/') (hsize : 1 ≤ size) :
    ¬DrawnAsComment settings glyph size level := by
  obtain ⟨count, hcount⟩ : ∃ count,
      (size + (Layout.ofSize size).padding * 2 + 1).toNat = count + 2 := by
    have hpadding : 0 ≤ (Layout.ofSize size).padding := Int.le_max_left 0 _
    exact ⟨(size + (Layout.ofSize size).padding * 2 + 1).toNat - 2, by omega⟩
  rw [drawnAsComment_iff_body]
  obtain ⟨text, htext⟩ : ∃ text, drawnBody settings glyph size (Layout.ofSize size).padding level =
      text ++ ['/', '/'] := by
    refine ⟨List.replicate (count + 2) '/' ++ (glyph.rows.map fun row =>
      (drawRow settings (Layout.ofSize size).padding level row).toList).flatMap ('\n' :: ·) ++
        '\n' :: ((indent level).toList ++ ' ' :: List.replicate count '/'), ?_⟩
    have hend : List.replicate (count + 2) '/' = List.replicate count '/' ++ ['/', '/'] :=
      List.replicate_add count 2 '/'
    simp only [drawnBody, repeated, hborder, hcount, String.toList_ofList, List.append_assoc,
      List.cons_append]
    rw [← hend]
  rw [htext, List.append_assoc]
  exact afterComment_slashes_ne text

/-- A row that begins with asterisks and then a slash closes the comment. -/
theorem not_drawnAsComment_of_row {row : List Bool} {others : List (List Bool)} {count : Nat}
    {more : List Char} (hborder : settings.borderChar ≠ '/') (hrows : glyph.rows = row :: others)
    (hrow : (drawRow settings (Layout.ofSize size).padding level row).toList =
      (indent level).toList ++ ' ' :: '*' :: (List.replicate count '*' ++ '/' :: more)) :
    ¬DrawnAsComment settings glyph size level := by
  set padding := (Layout.ofSize size).padding with hpadding
  set frame := (repeated settings.borderChar (size + padding * 2 + 1)).toList with hframe
  have hplain : '/' ∉ frame := by simp [hframe, repeated, Ne.symm hborder]
  obtain ⟨rest, hbody⟩ : ∃ rest, drawnBody settings glyph size padding level =
      (frame ++ '\n' :: ((indent level).toList ++ ' ' :: List.replicate count '*')) ++
        '*' :: '/' :: rest := by
    have hstars : '*' :: (List.replicate count '*' ++ '/' :: more) =
        List.replicate count '*' ++ '*' :: '/' :: more := by
      rw [← List.cons_append, ← List.replicate_succ, List.replicate_succ', List.append_assoc]
      rfl
    unfold drawnBody
    rw [hrows, List.map_cons, List.flatMap_cons, hrow, hstars]
    exact ⟨more ++ (others.map fun row => (drawRow settings padding level row).toList).flatMap
      ('\n' :: ·) ++ '\n' :: ((indent level).toList ++ ' ' :: frame), by simp [hframe]⟩
  -- There is no slash in front of this one, so the comment ends here, and more follows.
  rw [drawnAsComment_iff_body, ← hpadding, hbody, List.append_assoc, List.cons_append,
    List.cons_append, afterComment_of_isChain]
  · simp
  · refine isChain_of_not_slash_mem ?_
    simp [hplain, slash_not_mem_indent]

/-- A picture all pixels of which are alike. -/
def uniformGlyph (size : Int) (pixel : Bool) : Glyph :=
  ⟨0, List.replicate size.toNat (List.replicate size.toNat pixel)⟩

theorem isSquare_uniformGlyph (hsize : 1 ≤ size) (pixel : Bool) :
    (uniformGlyph size pixel).IsSquare size where
  height := by
    rw [uniformGlyph, List.length_replicate]
    omega
  width row hrow := by
    rw [List.eq_of_mem_replicate hrow, List.length_replicate]
    omega

theorem cell_false : settings.cell false = settings.blankChar :=
  rfl

theorem cell_true : settings.cell true = settings.markerChar :=
  rfl

/-- A picture closes the comment if its rows begin with asterisks and then a slash. -/
theorem not_drawnAsComment_of_uniform {pixel : Bool} {count : Nat} {more : List Char}
    (hborder : settings.borderChar ≠ '/') (hsize : 1 ≤ size)
    (hcells : List.replicate (Layout.ofSize size).padding.toNat settings.blankChar ++
        List.replicate size.toNat (settings.cell pixel) =
      List.replicate count '*' ++ '/' :: more) :
    ¬DrawnAsComment settings (uniformGlyph size pixel) size level := by
  obtain ⟨others, hrows⟩ : ∃ others, (uniformGlyph size pixel).rows =
      List.replicate size.toNat pixel :: others := by
    obtain ⟨height, hheight⟩ : ∃ height, size.toNat = height + 1 := ⟨size.toNat - 1, by omega⟩
    exact ⟨List.replicate height (List.replicate size.toNat pixel), by
      rw [uniformGlyph, ← List.replicate_succ, ← hheight]⟩
  have hrow : (drawRow settings (Layout.ofSize size).padding level
      (List.replicate size.toNat pixel)).toList = _ := toList_drawRow _
  rw [List.map_replicate, hcells, List.append_assoc, List.append_assoc, List.cons_append] at hrow
  exact not_drawnAsComment_of_row hborder hrows hrow

/-- Blanks that are slashes close the comment in an empty picture. -/
theorem not_drawnAsComment_of_blank (hborder : settings.borderChar ≠ '/')
    (hblank : settings.blankChar = '/') (hsize : 1 ≤ size) :
    ¬DrawnAsComment settings (uniformGlyph size false) size level := by
  obtain ⟨count, hcount⟩ : ∃ count,
      (Layout.ofSize size).padding.toNat + size.toNat = count + 1 :=
    ⟨(Layout.ofSize size).padding.toNat + size.toNat - 1, by omega⟩
  have hcells : List.replicate (Layout.ofSize size).padding.toNat settings.blankChar ++
      List.replicate size.toNat (settings.cell false) =
        List.replicate 0 '*' ++ '/' :: List.replicate count '/' := by
    rw [cell_false, hblank, ← List.replicate_add, hcount]
    rfl
  exact not_drawnAsComment_of_uniform hborder hsize hcells

/-- Pixels that are slashes close the comment where asterisks stand in front of them. -/
theorem not_drawnAsComment_of_marker (hborder : settings.borderChar ≠ '/')
    (hmarker : settings.markerChar = '/') (hsize : 1 ≤ size)
    (hside : 8 ≤ size ∨ settings.blankChar = '*') :
    ¬DrawnAsComment settings (uniformGlyph size true) size level := by
  obtain ⟨count, hcount⟩ : ∃ count, size.toNat = count + 1 := ⟨size.toNat - 1, by omega⟩
  have hstars : List.replicate (Layout.ofSize size).padding.toNat settings.blankChar =
      List.replicate (Layout.ofSize size).padding.toNat '*' := by
    rcases hside with hwide | hblank
    · have hnone : (Layout.ofSize size).padding.toNat = 0 := by
        simp only [Layout.ofSize, byteBits]
        omega
      rw [hnone]
      rfl
    · rw [hblank]
  have hcells : List.replicate (Layout.ofSize size).padding.toNat settings.blankChar ++
      List.replicate size.toNat (settings.cell true) =
        List.replicate (Layout.ofSize size).padding.toNat '*' ++
          '/' :: List.replicate count '/' := by
    rw [cell_true, hmarker, hstars, hcount, List.replicate_succ]
  exact not_drawnAsComment_of_uniform hborder hsize hcells

end Drawings

/--
When all drawings of a size are comments: neither the frame nor the blanks are drawn with slashes,
and the pixels only where blanks that are no asterisks stand beside each row.
-/
theorem drawnAsComment_iff (settings : Settings) {size : Int} (hsize : 1 ≤ size) (level : Int) :
    (∀ glyph : Glyph, glyph.IsSquare size → DrawnAsComment settings glyph size level) ↔
      settings.borderChar ≠ '/' ∧ settings.blankChar ≠ '/' ∧
        (settings.markerChar = '/' → size < 8 ∧ settings.blankChar ≠ '*') := by
  constructor
  · intro hall
    have hborder : settings.borderChar ≠ '/' := fun heq =>
      not_drawnAsComment_of_border heq hsize (hall _ (isSquare_uniformGlyph hsize true))
    refine ⟨hborder, fun heq => not_drawnAsComment_of_blank hborder heq hsize
      (hall _ (isSquare_uniformGlyph hsize false)), fun hmarker => ?_⟩
    by_contra hside
    refine not_drawnAsComment_of_marker hborder hmarker hsize ?_
      (hall _ (isSquare_uniformGlyph hsize true))
    rw [not_and_or, Int.not_lt, not_not] at hside
    exact hside
  · rintro ⟨hborder, hblank, hmarker⟩ glyph -
    rw [drawnAsComment_iff_body]
    refine afterComment_of_isChain (isChain_drawnBody hborder fun row _ => ?_)
    refine isChain_drawRow hborder hblank (fun heq => ⟨?_, (hmarker heq).2⟩) row
    have hsmall := (hmarker heq).1
    simp only [Layout.ofSize, byteBits]
    omega

/-- With the standard characters the drawing of a picture is a comment. -/
theorem drawnAsComment_iff_standard :
    DrawnAsComment Settings.standard (uniformGlyph 5 true) 5 iconLevel :=
  (drawnAsComment_iff Settings.standard (by decide) iconLevel).2 (by decide) _
    (isSquare_uniformGlyph (by decide) true)

/-- Settings under which slashes stand for pixels are valid, and a wide picture is no comment. -/
theorem not_drawnAsComment_slashes :
    let settings := { Settings.standard with markerChar := '/' }
    settings.Valid ∧ (uniformGlyph 8 true).IsSquare 8 ∧
      ¬DrawnAsComment settings (uniformGlyph 8 true) 8 iconLevel := by
  intro settings
  have hvalid : settings.Valid :=
    ⟨⟨[(Settings.Field.name .markerChar, .text "/")], []⟩, rfl⟩
  exact ⟨hvalid, isSquare_uniformGlyph (by decide) true,
    not_drawnAsComment_of_marker (by decide) rfl (by decide) (.inl (by decide))⟩

end IconPress
