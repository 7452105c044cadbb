import IconPress.Text.Pieces
import IconPress.Text.Word

/-!
# Patterns

Patterns over characters, matched by trying and taking back: a repetition takes as many characters
as it can, an alternative its first branch, and when what follows does not match, the last choice
is taken back and the next one tried.  A matcher is given what has to follow, so that a choice is
good only if the rest of the pattern goes along with it.

Main definitions:

- `Pattern` and `Pattern.run`: patterns and how they are matched at a place of a text.
- `Pattern.findAll`: the matches in a text from left to right, none of which overlap.
- `Pattern.ReadsLines`: a pattern that matches whole lines, and what it captures of each.

Main results:

- `Pattern.run_many_eq_some`: what a repetition took, when there is a match.
- `Pattern.run_many_of_stop`, `Pattern.run_many_of_rest`: matches that are found.
- `Pattern.groups_findAll`: searching a text with a pattern for lines is reading it line by line.
-/

namespace IconPress
namespace Text

/-- Parts of a text that were captured, under their numbers, the last one first. -/
abbrev Groups : Type :=
  List (Nat × List Char)

/-- A text that does not begin with a character of a line: a line feed comes first, or nothing. -/
def bordersLine (text : List Char) : Bool :=
  text.head?.all (· == '\n')

@[simp]
theorem bordersLine_nil : bordersLine [] = true :=
  rfl

@[simp]
theorem bordersLine_cons (c : Char) (rest : List Char) :
    bordersLine (c :: rest) = (c == '\n') :=
  rfl

/-- A place in a text, with the parts captured on the way there. -/
structure Cursor where
  /-- What stands before the place, in reverse. -/
  before : List Char
  /-- What stands after it. -/
  after : List Char
  groups : Groups
deriving DecidableEq, Repr

namespace Cursor

/-- No character stands between the place and the end of the line before. -/
def isLineStart (cursor : Cursor) : Bool :=
  bordersLine cursor.before

/-- No character stands between the place and the end of its line. -/
def isLineEnd (cursor : Cursor) : Bool :=
  bordersLine cursor.after

/-- A word begins or ends at the place. -/
def isWordEdge (cursor : Cursor) : Bool :=
  cursor.before.head?.any isWordChar != cursor.after.head?.any isWordChar

/-- The place with what was passed since an earlier place captured. -/
def capture (cursor : Cursor) (number : Nat) (start : Cursor) : Cursor :=
  let passed := cursor.before.take (cursor.before.length - start.before.length)
  { cursor with groups := (number, passed.reverse) :: cursor.groups }

/-- What was passed since a place is what has come to stand before the next one. -/
theorem capture_append (before passed after later : List Char) (groups others : Groups)
    (number : Nat) :
    (⟨passed.reverse ++ before, later, groups⟩ : Cursor).capture number ⟨before, after, others⟩ =
      ⟨passed.reverse ++ before, later, (number, passed) :: groups⟩ := by
  simp [capture]

end Cursor

/-- Patterns. -/
inductive Pattern where
  /-- The start of the text or of a line. -/
  | lineStart
  /-- The end of the text or of a line. -/
  | lineEnd
  /-- The start or the end of a word. -/
  | wordEdge
  /-- These characters. -/
  | word (characters : List Char)
  /-- One character of a class. -/
  | one (accepts : Char → Bool)
  /-- Characters of a class, as many as possible. -/
  | many (accepts : Char → Bool)
  /-- One pattern behind the other. -/
  | follow (first second : Pattern)
  /-- One of two patterns, the first one if possible. -/
  | either (first second : Pattern)
  /-- A pattern whose match is captured. -/
  | group (number : Nat) (inner : Pattern)

namespace Pattern

/-- Take as many characters of a class as `next` goes along with. -/
def runMany (accepts : Char → Bool) (next : Cursor → Option Cursor) (groups : Groups) :
    List Char → List Char → Option Cursor
  | before, [] => next ⟨before, [], groups⟩
  | before, c :: after =>
    if accepts c then
      (runMany accepts next groups (c :: before) after).or (next ⟨before, c :: after, groups⟩)
    else
      next ⟨before, c :: after, groups⟩

/-- The first match of a pattern at a place that `next` goes along with, and where that leads. -/
def run : Pattern → (Cursor → Option Cursor) → Cursor → Option Cursor
  | lineStart, next, cursor => if cursor.isLineStart then next cursor else none
  | lineEnd, next, cursor => if cursor.isLineEnd then next cursor else none
  | wordEdge, next, cursor => if cursor.isWordEdge then next cursor else none
  | word characters, next, cursor =>
    if characters.isPrefixOf cursor.after then
      next ⟨characters.reverse ++ cursor.before, cursor.after.drop characters.length,
        cursor.groups⟩
    else
      none
  | one accepts, next, ⟨before, after, groups⟩ =>
    match after with
    | [] => none
    | c :: rest => if accepts c then next ⟨c :: before, rest, groups⟩ else none
  | many accepts, next, cursor => runMany accepts next cursor.groups cursor.before cursor.after
  | follow first second, next, cursor => first.run (second.run next) cursor
  | either first second, next, cursor => (first.run next cursor).or (second.run next cursor)
  | group number inner, next, cursor =>
    inner.run (fun stop => next (stop.capture number cursor)) cursor

/--
The matches of a pattern from a place on.  After a match, which holds a character at least, the
search goes on behind it: `skip` characters are still part of the last match.
-/
def findFrom (pattern : Pattern) : Nat → List Char → List Char → List Cursor
  | _, before, [] => (pattern.run some ⟨before, [], []⟩).toList
  | skip + 1, before, c :: after => findFrom pattern skip (c :: before) after
  | 0, before, c :: after =>
    match pattern.run some ⟨before, c :: after, []⟩ with
    | none => findFrom pattern 0 (c :: before) after
    | some stop =>
      stop :: findFrom pattern (stop.before.length - before.length - 1) (c :: before) after

/-- The matches of a pattern in a text, as the places where they end. -/
def findAll (pattern : Pattern) (text : List Char) : List Cursor :=
  pattern.findFrom 0 [] text

/-! ## How each kind of pattern is matched -/

theorem run_lineStart (next : Cursor → Option Cursor) (cursor : Cursor) :
    lineStart.run next cursor = if cursor.isLineStart then next cursor else none :=
  rfl

theorem run_lineEnd (next : Cursor → Option Cursor) (cursor : Cursor) :
    lineEnd.run next cursor = if cursor.isLineEnd then next cursor else none :=
  rfl

theorem run_wordEdge (next : Cursor → Option Cursor) (cursor : Cursor) :
    wordEdge.run next cursor = if cursor.isWordEdge then next cursor else none :=
  rfl

theorem run_word (characters : List Char) (next : Cursor → Option Cursor) (cursor : Cursor) :
    (word characters).run next cursor =
      if characters.isPrefixOf cursor.after then
        next ⟨characters.reverse ++ cursor.before, cursor.after.drop characters.length,
          cursor.groups⟩
      else
        none :=
  rfl

theorem run_one_nil (accepts : Char → Bool) (next : Cursor → Option Cursor)
    (before : List Char) (groups : Groups) :
    (one accepts).run next ⟨before, [], groups⟩ = none :=
  rfl

theorem run_one_of_cons (accepts : Char → Bool) (next : Cursor → Option Cursor)
    (before : List Char) (c : Char) (rest : List Char) (groups : Groups) :
    (one accepts).run next ⟨before, c :: rest, groups⟩ =
      if accepts c then next ⟨c :: before, rest, groups⟩ else none :=
  rfl

theorem run_many (accepts : Char → Bool) (next : Cursor → Option Cursor) (cursor : Cursor) :
    (many accepts).run next cursor =
      runMany accepts next cursor.groups cursor.before cursor.after :=
  rfl

theorem run_either (first second : Pattern) (next : Cursor → Option Cursor) (cursor : Cursor) :
    (either first second).run next cursor =
      (first.run next cursor).or (second.run next cursor) :=
  rfl

@[simp]
theorem run_follow (first second : Pattern) (next : Cursor → Option Cursor) (cursor : Cursor) :
    (follow first second).run next cursor = first.run (second.run next) cursor :=
  rfl

@[simp]
theorem run_group (number : Nat) (inner : Pattern) (next : Cursor → Option Cursor)
    (cursor : Cursor) : (group number inner).run next cursor =
      inner.run (fun stop => next (stop.capture number cursor)) cursor :=
  rfl

/-! ## Matches that were found -/

section Found

variable {next : Cursor → Option Cursor} {before after : List Char} {groups : Groups}
  {stop : Cursor} {accepts : Char → Bool}

theorem run_word_eq_some {characters : List Char}
    (h : (word characters).run next ⟨before, after, groups⟩ = some stop) :
    ∃ rest, after = characters ++ rest ∧
      next ⟨characters.reverse ++ before, rest, groups⟩ = some stop := by
  rw [run_word] at h
  split at h
  · rename_i hword
    rcases List.isPrefixOf_iff_prefix.1 hword with ⟨rest, rfl⟩
    exact ⟨rest, rfl, by simpa using h⟩
  · simp at h

theorem run_one_eq_some (h : (one accepts).run next ⟨before, after, groups⟩ = some stop) :
    ∃ c rest, after = c :: rest ∧ accepts c = true ∧
      next ⟨c :: before, rest, groups⟩ = some stop := by
  cases after with
  | nil => simp [run_one_nil] at h
  | cons c rest =>
      rw [run_one_of_cons] at h
      split at h
      · rename_i hc
        exact ⟨c, rest, rfl, hc, h⟩
      · simp at h

/-- A repetition took characters of its class, and the rest went along. -/
theorem run_many_eq_some (h : (many accepts).run next ⟨before, after, groups⟩ = some stop) :
    ∃ taken rest, after = taken ++ rest ∧ (∀ c ∈ taken, accepts c = true) ∧
      next ⟨taken.reverse ++ before, rest, groups⟩ = some stop := by
  rw [run_many] at h
  induction after generalizing before with
  | nil => exact ⟨[], [], rfl, by simp, h⟩
  | cons c after ih =>
      rw [runMany] at h
      split at h
      · rename_i hc
        rcases Option.or_eq_some_iff.1 h with h | ⟨-, h⟩
        · rcases ih h with ⟨taken, rest, rfl, htaken, hnext⟩
          exact ⟨c :: taken, rest, rfl, List.forall_mem_cons.2 ⟨hc, htaken⟩, by simpa using hnext⟩
        · exact ⟨[], c :: after, rfl, by simp, h⟩
      · exact ⟨[], c :: after, rfl, by simp, h⟩

theorem run_either_of_first {first second : Pattern} {cursor : Cursor}
    (h : first.run next cursor = some stop) :
    (either first second).run next cursor = some stop := by
  simp [run_either, h]

theorem run_either_of_none {first second : Pattern} {cursor : Cursor}
    (h : first.run next cursor = none) :
    (either first second).run next cursor = second.run next cursor := by
  simp [run_either, h]

theorem run_either_eq_some {first second : Pattern} {cursor : Cursor}
    (h : (either first second).run next cursor = some stop) :
    first.run next cursor = some stop ∨ second.run next cursor = some stop :=
  (Option.or_eq_some_iff.1 h).imp_right And.right

theorem run_lineStart_eq_some {cursor : Cursor} (h : lineStart.run next cursor = some stop) :
    next cursor = some stop := by
  rw [run_lineStart] at h
  split at h
  · exact h
  · simp at h

theorem run_wordEdge_eq_some {cursor : Cursor} (h : wordEdge.run next cursor = some stop) :
    cursor.isWordEdge = true ∧ next cursor = some stop := by
  rw [run_wordEdge] at h
  split at h
  · rename_i hedge
    exact ⟨hedge, h⟩
  · simp at h

end Found

/-! ## Matches that are found -/

section Find

variable {next : Cursor → Option Cursor} {before taken rest : List Char} {groups : Groups}
  {stop : Cursor} {accepts : Char → Bool}

/-- These characters are matched where they stand. -/
@[simp]
theorem run_word_append (characters : List Char) :
    (word characters).run next ⟨before, characters ++ rest, groups⟩ =
      next ⟨characters.reverse ++ before, rest, groups⟩ := by
  simp [run_word]

/-- A character of a class is matched where it stands. -/
theorem run_one_cons {c : Char} (hc : accepts c = true) :
    (one accepts).run next ⟨before, c :: rest, groups⟩ = next ⟨c :: before, rest, groups⟩ := by
  rw [run_one_of_cons, if_pos hc]

/-- A repetition takes all characters of its class if the rest goes along. -/
theorem run_many_of_rest (htaken : ∀ c ∈ taken, accepts c = true)
    (hrest : ∀ c ∈ rest.head?, accepts c = false)
    (h : next ⟨taken.reverse ++ before, rest, groups⟩ = some stop) :
    (many accepts).run next ⟨before, taken ++ rest, groups⟩ = some stop := by
  rw [run_many]
  induction taken generalizing before with
  | nil =>
      cases rest with
      | nil => exact h
      | cons c rest => simpa [runMany, hrest c rfl] using h
  | cons c taken ih =>
      rw [List.forall_mem_cons] at htaken
      have hlonger := ih htaken.2 (by simpa using h)
      rw [List.cons_append, runMany, if_pos htaken.1, hlonger, Option.some_or]

/-- A repetition takes nothing if the rest never goes along later. -/
theorem runMany_of_none (htaken : ∀ c ∈ taken, accepts c = true)
    (hrest : ∀ c ∈ rest.head?, accepts c = false)
    (hother : ∀ more fewer, taken = more ++ fewer → more ≠ [] →
      next ⟨more.reverse ++ before, fewer ++ rest, groups⟩ = none) :
    runMany accepts next groups before (taken ++ rest) =
      next ⟨before, taken ++ rest, groups⟩ := by
  induction taken generalizing before with
  | nil =>
      cases rest with
      | nil => rfl
      | cons c rest => simp [runMany, hrest c rfl]
  | cons c taken ih =>
      rw [List.forall_mem_cons] at htaken
      have hlonger := ih htaken.2 fun more fewer heq _ => by
        simpa using hother (c :: more) fewer (congrArg (c :: ·) heq) (by simp)
      have hhere : next ⟨c :: before, taken ++ rest, groups⟩ = none :=
        hother [c] taken rfl (by simp)
      rw [List.cons_append, runMany, if_pos htaken.1, hlonger, hhere, Option.none_or]

/-- A repetition stops where the rest goes along, if it does so nowhere else. -/
theorem run_many_of_stop {left : List Char} (htaken : ∀ c ∈ taken ++ left, accepts c = true)
    (hrest : ∀ c ∈ rest.head?, accepts c = false)
    (h : next ⟨taken.reverse ++ before, left ++ rest, groups⟩ = some stop)
    (hother : ∀ more fewer, taken ++ left = more ++ fewer → fewer ≠ left →
      next ⟨more.reverse ++ before, fewer ++ rest, groups⟩ = none) :
    (many accepts).run next ⟨before, taken ++ (left ++ rest), groups⟩ = some stop := by
  rw [run_many]
  induction taken generalizing before with
  | nil =>
      have hleft : ∀ c ∈ left, accepts c = true := htaken
      rw [List.nil_append, runMany_of_none hleft hrest]
      · exact h
      · intro more fewer heq hmore
        refine hother more fewer heq ?_
        rintro rfl
        exact hmore (by simpa using heq)
  | cons c taken ih =>
      rw [List.cons_append, List.forall_mem_cons] at htaken
      have hlonger := ih htaken.2 (by simpa using h) fun more fewer heq hne => by
        simpa using hother (c :: more) fewer (congrArg (c :: ·) heq) hne
      rw [List.cons_append, runMany, if_pos htaken.1, hlonger, Option.some_or]

end Find

/-! ## Patterns for lines -/

/--
A pattern matches lines only, each from its start to its end: `read` says which ones, and what is
captured of them.
-/
structure ReadsLines (pattern : Pattern) (read : List Char → Option Groups) : Prop where
  /-- A match begins where a line begins. -/
  anchored : ∀ before after, bordersLine before = false →
    pattern.run some ⟨before, after, []⟩ = none
  /-- A match takes all of a line. -/
  whole : ∀ before line rest, bordersLine before = true → '\n' ∉ line →
    bordersLine rest = true →
    pattern.run some ⟨before, line ++ rest, []⟩ =
      (read line).map fun groups => ⟨line.reverse ++ before, rest, groups⟩
  /-- A line without characters does not match. -/
  read_nil : read [] = none

namespace ReadsLines

variable {pattern : Pattern} {read : List Char → Option Groups}

/-- Nothing is found between the start of a line and its end. -/
theorem findFrom_append (h : pattern.ReadsLines read) {skip : Nat} {before part rest : List Char}
    (hbefore : bordersLine before = false) (hpart : '\n' ∉ part)
    (hskip : skip ≤ part.length) :
    pattern.findFrom skip before (part ++ rest) =
      pattern.findFrom 0 (part.reverse ++ before) rest := by
  induction part generalizing skip before with
  | nil => rw [Nat.le_zero.1 hskip]; rfl
  | cons c part ih =>
      rw [List.mem_cons, not_or] at hpart
      have hnext : bordersLine (c :: before) = false := by
        simpa using Ne.symm hpart.1
      have hreverse : (c :: part).reverse ++ before = part.reverse ++ c :: before := by simp
      rw [hreverse, List.cons_append]
      cases skip with
      | zero => rw [findFrom, h.anchored _ _ hbefore, ih hnext hpart.2 (Nat.zero_le _)]
      | succ skip => rw [findFrom, ih hnext hpart.2 (Nat.le_of_succ_le_succ hskip)]

/-- Nothing is found at the end of a line. -/
theorem run_lineEnd (h : pattern.ReadsLines read) {before rest : List Char}
    (hrest : bordersLine rest = true) : pattern.run some ⟨before, rest, []⟩ = none := by
  cases hbefore : bordersLine before with
  | false => exact h.anchored before rest hbefore
  | true =>
      have hempty := h.whole before [] rest hbefore (by simp) hrest
      rwa [h.read_nil] at hempty

/-- From the start of a line the search finds what is read of the line, and goes on behind it. -/
theorem groups_findFrom_line (h : pattern.ReadsLines read) {before line rest : List Char}
    (hbefore : bordersLine before = true) (hline : '\n' ∉ line)
    (hrest : bordersLine rest = true) :
    (pattern.findFrom 0 before (line ++ rest)).map Cursor.groups =
      (read line).toList ++
        (pattern.findFrom 0 (line.reverse ++ before) rest).map Cursor.groups := by
  cases line with
  | nil => simp [h.read_nil]
  | cons c part =>
      have hwhole := h.whole before (c :: part) rest hbefore hline hrest
      have hpart : '\n' ∉ part := fun hmem => hline (List.mem_cons_of_mem c hmem)
      have hnext : bordersLine (c :: before) = false := by
        simpa using fun hc : c = '\n' => hline (hc ▸ List.mem_cons_self)
      have hreverse : (c :: part).reverse ++ before = part.reverse ++ c :: before := by simp
      rw [hreverse] at hwhole ⊢
      rw [List.cons_append] at hwhole ⊢
      rw [findFrom, hwhole]
      cases read (c :: part) with
      | none =>
          simp only [Option.map_none, Option.toList_none, List.nil_append]
          rw [h.findFrom_append hnext hpart (Nat.zero_le _)]
      | some groups =>
          simp only [Option.map_some, Option.toList_some, List.map_cons, List.singleton_append]
          rw [h.findFrom_append hnext hpart (by simp; omega)]

/-- From the start of a line the search finds what is read of the lines, one after another. -/
theorem groups_findFrom (h : pattern.ReadsLines read) {before : List Char}
    (hbefore : bordersLine before = true) {parts : List (List Char)} (hne : parts ≠ [])
    (hparts : ∀ line ∈ parts, '\n' ∉ line) :
    (pattern.findFrom 0 before (['\n'].intercalate parts)).map Cursor.groups =
      parts.filterMap read := by
  induction parts generalizing before with
  | nil => exact absurd rfl hne
  | cons line others ih =>
      rw [List.forall_mem_cons] at hparts
      have hread : (line :: others).filterMap read =
          (read line).toList ++ others.filterMap read := by
        rw [List.filterMap_cons]
        cases read line <;> rfl
      rw [hread]
      cases others with
      | nil =>
          have hfound := h.groups_findFrom_line hbefore hparts.1 bordersLine_nil
          rw [findFrom, h.run_lineEnd (by rfl), List.append_nil] at hfound
          simpa [List.intercalate] using hfound
      | cons next more =>
          have hlines : ['\n'].intercalate (line :: next :: more) =
              line ++ '\n' :: ['\n'].intercalate (next :: more) := by
            simp [List.intercalate]
          rw [hlines, h.groups_findFrom_line hbefore hparts.1 (by simp), findFrom,
            h.run_lineEnd (by simp)]
          simp only
          rw [ih (by simp) (by simp) hparts.2]

/-- A text is searched with a pattern for lines by reading every line. -/
theorem groups_findAll (h : pattern.ReadsLines read) (text : List Char) :
    (pattern.findAll text).map Cursor.groups = (lines text).filterMap read := by
  have hlines := h.groups_findFrom bordersLine_nil
    (pieces_ne_nil '\n' text) fun line hline => not_mem_of_mem_pieces hline
  rwa [intercalate_pieces] at hlines

end ReadsLines

end Pattern
end Text
end IconPress
