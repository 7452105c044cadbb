import IconPress.Proofs.Declarations
import Mathlib.Data.List.TakeWhile

/-!
# Lines that declare

A line declares a dimension when it consists of blanks or tabs, the mark of a declaration, blanks
or tabs, the word `define`, at least one blank or tab and a name that ends in the dimension.  What
follows the name, up to a comment and without blanks at its ends, is the value.  This module states
that as a relation, without saying how such a line is found, and shows that the scanner reads
exactly these values.

Main definitions:

- `BeforeComment` and `Trimmed`: what is left of a text when a comment or blanks are taken away.
- `Written`: a line that declares a dimension, and what follows the name.
- `Declares` and `ValuesOf`: the value of a line, and the values of lines in order.

Main results:

- `declares_iff`: the value that is read from a line is the one that it declares.
- `valuesOf_iff`: the values that are read from a text are those that its lines declare.
-/

namespace IconPress

open Text (isWordChar isBlank)

/-! ## Values -/

section Values

variable {text front value : List Char}

/-- What stands before the first comment of a text. -/
structure BeforeComment (text front : List Char) : Prop where
  /-- There the text ends, or a comment begins. -/
  ends : ∃ comment, text = front ++ comment ∧ (comment = [] ∨ OpensComment comment)
  /-- No comment begins earlier. -/
  first : ∀ earlier later, text = earlier ++ later → earlier.length < front.length →
    ¬OpensComment later

theorem beforeComment_uncommented (text : List Char) :
    BeforeComment text (uncommented text) := by
  induction text with
  | nil => exact ⟨⟨[], rfl, .inl rfl⟩, by simp [uncommented]⟩
  | cons c rest ih =>
      by_cases hopens : OpensComment (c :: rest)
      · rw [uncommented_of_opensComment hopens]
        exact ⟨⟨_, rfl, .inr hopens⟩, by simp⟩
      · rw [uncommented_cons hopens]
        refine ⟨?_, ?_⟩
        · rcases ih.ends with ⟨comment, hrest, hcomment⟩
          exact ⟨comment, congrArg (c :: ·) hrest, hcomment⟩
        · intro earlier later hsplit hlength
          cases earlier with
          | nil =>
              rw [List.nil_append] at hsplit
              exact hsplit ▸ hopens
          | cons d earlier =>
              rw [List.cons_append, List.cons.injEq] at hsplit
              exact ih.first earlier later hsplit.2 (Nat.lt_of_succ_lt_succ hlength)

/-- No two comments are the first one. -/
theorem BeforeComment.length_le {other : List Char} (h : BeforeComment text front)
    (hother : BeforeComment text other) : other.length ≤ front.length := by
  rcases h.ends with ⟨comment, htext, rfl | hopens⟩
  · rcases hother.ends with ⟨rest, hrest, -⟩
    have hlength := congrArg List.length (htext.symm.trans hrest)
    simp only [List.length_append, List.length_nil] at hlength
    omega
  · exact Nat.le_of_not_lt fun hlt => hother.first front comment htext hlt hopens

/-- The scanner takes what stands before the first comment. -/
theorem beforeComment_iff : BeforeComment text front ↔ front = uncommented text := by
  constructor
  · intro h
    have hlength := Nat.le_antisymm (beforeComment_uncommented text |>.length_le h)
      (h.length_le (beforeComment_uncommented text))
    rcases h.ends with ⟨comment, htext, -⟩
    rcases (beforeComment_uncommented text).ends with ⟨rest, hrest, -⟩
    exact (List.append_inj (htext.symm.trans hrest) hlength).1
  · rintro rfl
    exact beforeComment_uncommented text

/-- What is left of a text without the blanks at its ends. -/
structure Trimmed (text value : List Char) : Prop where
  within : ∃ front back, text = front ++ (value ++ back) ∧ (∀ c ∈ front, isBlank c = true) ∧
    ∀ c ∈ back, isBlank c = true
  head : ∀ c ∈ value.head?, isBlank c = false
  last : ∀ c ∈ value.getLast?, isBlank c = false

theorem trimmed_trim (text : List Char) : Trimmed text (Text.trim text) := by
  have hstart : text.dropWhile isBlank = Text.trim text ++
      ((text.dropWhile isBlank).reverse.takeWhile isBlank).reverse := by
    rw [Text.trim, Text.trimEnd, ← List.reverse_append, List.takeWhile_append_dropWhile,
      List.reverse_reverse]
  refine ⟨⟨_, _, text.takeWhile_append_dropWhile.symm.trans (congrArg _ hstart), ?_, ?_⟩, ?_, ?_⟩
  · exact fun c hc => List.mem_takeWhile_imp hc
  · exact fun c hc => List.mem_takeWhile_imp (List.mem_reverse.1 hc)
  · intro c hc
    have hhead : c ∈ (text.dropWhile isBlank).head? := by
      rw [hstart, List.head?_append]
      simp [Option.mem_def.1 hc]
    exact not_of_mem_head?_dropWhile hhead
  · intro c hc
    rw [Text.trim, Text.trimEnd, List.getLast?_reverse] at hc
    exact not_of_mem_head?_dropWhile hc

/-- The scanner takes the blanks at the ends away, and nothing else. -/
theorem trimmed_iff : Trimmed text value ↔ value = Text.trim text := by
  constructor
  · rintro ⟨⟨front, back, rfl, hfront, hback⟩, hhead, hlast⟩
    have hreverse : (value ++ back).reverse.dropWhile isBlank = value.reverse := by
      rw [List.reverse_append, dropWhile_run (fun c hc => hback c (List.mem_reverse.1 hc))]
      rwa [List.head?_reverse]
    rw [Text.trim]
    cases value with
    | nil =>
        have hblank : ∀ c ∈ front ++ back, isBlank c = true := fun c hc =>
          (List.mem_append.1 hc).elim (hfront c) (hback c)
        rw [List.nil_append, List.dropWhile_eq_nil_iff.2 hblank]
        rfl
    | cons c value =>
        rw [dropWhile_run hfront (by simpa using hhead), Text.trimEnd, hreverse,
          List.reverse_reverse]
  · rintro rfl
    exact trimmed_trim text

/-- A text is taken away as a whole when it is blank. -/
theorem trim_eq_nil_iff : Text.trim text = [] ↔ ∀ c ∈ text, isBlank c = true := by
  constructor
  · intro h
    rcases (trimmed_trim text).within with ⟨front, back, htext, hfront, hback⟩
    rw [h, List.nil_append] at htext
    rw [htext]
    exact fun c hc => (List.mem_append.1 hc).elim (hfront c) (hback c)
  · intro h
    exact (trimmed_iff.1 ⟨⟨text, [], by simp, h, by simp⟩, by simp, by simp⟩).symm

/-- What is left has no blanks at its ends. -/
theorem trim_trim (text : List Char) : Text.trim (Text.trim text) = Text.trim text := by
  have htrimmed := trimmed_trim text
  exact (trimmed_iff.1 ⟨⟨[], [], by simp, by simp, by simp⟩, htrimmed.head, htrimmed.last⟩).symm

/-- A value is what is left of a text without comment and without blanks at its ends. -/
def IsValue (text value : List Char) : Prop :=
  ∃ front, BeforeComment text front ∧ Trimmed front value

theorem isValue_iff : IsValue text value ↔ value = Text.trim (uncommented text) := by
  simp only [IsValue, beforeComment_iff, trimmed_iff]
  exact ⟨fun ⟨_, hfront, hvalue⟩ => hfront ▸ hvalue, fun h => ⟨_, rfl, h⟩⟩

theorem isBlank_of_isGap {c : Char} (h : isGap c = true) : isBlank c = true := by
  simp only [isGap, Bool.or_eq_true, decide_eq_true_eq] at h
  rcases h with rfl | rfl <;> decide

/-- Space in front of a value is no part of it. -/
theorem trim_uncommented_dropWhile (text : List Char) :
    Text.trim (uncommented (text.dropWhile isGap)) = Text.trim (uncommented text) := by
  induction text with
  | nil => rfl
  | cons c rest ih =>
      by_cases hc : isGap c = true
      · have hopens : ¬OpensComment (c :: rest) := by
          rintro (⟨more, hmore⟩ | ⟨more, hmore⟩) <;>
          · rw [List.cons_append, List.cons.injEq] at hmore
            rw [← hmore.1] at hc
            exact absurd hc (by decide)
        rw [List.dropWhile_cons_of_pos hc, uncommented_cons hopens, ih, Text.trim, Text.trim,
          List.dropWhile_cons_of_pos (isBlank_of_isGap hc)]
      · rw [List.dropWhile_cons_of_neg hc]

end Values

/-! ## Lines -/

/-- A line declares a dimension, and a text follows the name on it. -/
inductive Written (dimension : Dimension) : List Char → List Char → Prop where
  | line {indent gap space stem rest : List Char} (hindent : ∀ c ∈ indent, isGap c = true)
      (hgap : ∀ c ∈ gap, isGap c = true) (hspace : ∀ c ∈ space, isGap c = true)
      (hapart : space ≠ []) (hstem : ∀ c ∈ stem, isWordChar c = true)
      (hrest : ∀ c ∈ rest.head?, isWordChar c = false) :
      Written dimension (indent ++ ("#".toList ++ (gap ++ ("define".toList ++ (space ++
        (stem ++ Declaration.nameEnd dimension ++ rest)))))) rest

/-- A line declares a value for a dimension. -/
def Declares (dimension : Dimension) (line value : List Char) : Prop :=
  ∃ rest, Written dimension line rest ∧ IsValue rest value

/-- Lines declare values for a dimension, in order; the other lines say nothing about it. -/
inductive ValuesOf (dimension : Dimension) : List (List Char) → List (List Char) → Prop where
  | nil : ValuesOf dimension [] []
  | declaring {line value : List Char} {lines values : List (List Char)}
      (hline : Declares dimension line value) (hlines : ValuesOf dimension lines values) :
      ValuesOf dimension (line :: lines) (value :: values)
  | other {line : List Char} {lines values : List (List Char)}
      (hline : ∀ value, ¬Declares dimension line value) (hlines : ValuesOf dimension lines values) :
      ValuesOf dimension (line :: lines) values

/-- The value that is read from a line for a dimension. -/
def readLine? (dimension : Dimension) (line : List Char) : Option (List Char) :=
  (Declaration.ofLine? line).bind fun declaration =>
    if declaration.declares dimension then some declaration.value else none

section Lines

variable {dimension : Dimension} {line rest value text : List Char}

/-- What follows a word is what is put behind it. -/
theorem afterWord?_eq_some_iff {word : String} :
    afterWord? word text = some rest ↔ text = word.toList ++ rest := by
  unfold afterWord?
  rw [← String.length_toList]
  constructor
  · intro h
    split at h
    · rename_i hword
      rcases List.isPrefixOf_iff_prefix.1 hword with ⟨more, rfl⟩
      rw [List.drop_left, Option.some.injEq] at h
      rw [h]
    · simp at h
  · rintro rfl
    simp

/-- The name of a dimension does not begin with space. -/
theorem isGap_of_mem_head? {stem : List Char} (hstem : ∀ c ∈ stem, isWordChar c = true) :
    ∀ c ∈ (stem ++ Declaration.nameEnd dimension ++ rest).head?, isGap c = false := by
  cases stem with
  | nil => cases dimension <;> exact fun c hc => Option.some.inj hc ▸ rfl
  | cons first others =>
      have hfirst := isGap_of_isWordChar (hstem first List.mem_cons_self)
      simpa using hfirst

/-- A line that declares a dimension is read so. -/
theorem Written.ofLine? (h : Written dimension line rest) :
    ∃ stem, Declaration.ofLine? line = some ⟨stem ++ Declaration.nameEnd dimension,
      Text.trim (uncommented rest)⟩ := by
  rcases h with ⟨hindent, hgap, hspace, hapart, hstem, hrest⟩
  rename_i indent gap space stem
  have hstart := @isGap_of_mem_head? dimension rest stem hstem
  have hword : ∀ c ∈ stem ++ Declaration.nameEnd dimension, isWordChar c = true :=
    fun c => isWordChar_of_mem_name hstem
  refine ⟨stem, ?_⟩
  generalize stem ++ Declaration.nameEnd dimension = name at hstart hword ⊢
  have hmark : afterWord? "#" ((indent ++ ("#".toList ++ (gap ++ ("define".toList ++ (space ++
      (name ++ rest)))))).dropWhile isGap) =
      some (gap ++ ("define".toList ++ (space ++ (name ++ rest)))) := by
    rw [dropWhile_run hindent (by simp; decide), afterWord?_eq_some_iff]
  have hdefine : afterWord? "define" ((gap ++ ("define".toList ++ (space ++
      (name ++ rest)))).dropWhile isGap) = some (space ++ (name ++ rest)) := by
    rw [dropWhile_run hgap (by simp; decide), afterWord?_eq_some_iff]
  have hlength : (name ++ rest).length < (space ++ (name ++ rest)).length := by
    have hpositive := List.length_pos_iff.2 hapart
    simp only [List.length_append]
    omega
  simp only [Declaration.ofLine?, hmark, hdefine, Option.bind_eq_bind, Option.bind_some,
    dropWhile_run hspace hstart, takeWhile_run hword hrest, dropWhile_run hword hrest, hlength,
    if_true, trim_uncommented_dropWhile]

/-- What is read of a line for a dimension is written there. -/
theorem exists_written_of_ofLine? {declaration : Declaration}
    (h : Declaration.ofLine? line = some declaration)
    (hdimension : declaration.declares dimension = true) :
    ∃ rest, Written dimension line rest ∧
      declaration.value = Text.trim (uncommented rest) := by
  simp only [Declaration.ofLine?, Option.bind_eq_bind, Option.bind_eq_some_iff,
    afterWord?_eq_some_iff] at h
  rcases h with ⟨afterHash, hhash, afterDefine, hdefine, h⟩
  split at h
  · rename_i hapart
    cases h
    generalize hnamed : afterDefine.dropWhile isGap = named at hapart hdimension
    rcases List.isSuffixOf_iff_suffix.1 hdimension with ⟨stem, hname⟩
    have hall : ∀ c ∈ stem ++ Declaration.nameEnd dimension, isWordChar c = true := by
      rw [hname]
      exact fun c hc => List.mem_takeWhile_imp hc
    have hspace : afterDefine.takeWhile isGap ≠ [] := by
      intro hnone
      have hsame : afterDefine.takeWhile isGap ++ afterDefine.dropWhile isGap = afterDefine :=
        List.takeWhile_append_dropWhile
      rw [hnone, hnamed, List.nil_append] at hsame
      rw [hsame] at hapart
      exact Nat.lt_irrefl _ hapart
    have hline : line = line.takeWhile isGap ++ ("#".toList ++ (afterHash.takeWhile isGap ++
        ("define".toList ++ (afterDefine.takeWhile isGap ++ (stem ++
          Declaration.nameEnd dimension ++ named.dropWhile isWordChar))))) := by
      rw [hname, List.takeWhile_append_dropWhile, ← hnamed, List.takeWhile_append_dropWhile,
        ← hdefine, List.takeWhile_append_dropWhile, ← hhash, List.takeWhile_append_dropWhile]
    refine ⟨named.dropWhile isWordChar, ?_, trim_uncommented_dropWhile _⟩
    rw [hline]
    exact .line (fun c => List.mem_takeWhile_imp) (fun c => List.mem_takeWhile_imp)
      (fun c => List.mem_takeWhile_imp) hspace (fun c hc => hall c (List.mem_append_left _ hc))
      fun c => not_of_mem_head?_dropWhile
  · simp at h

/-- The value that is read from a line is the one that it declares. -/
theorem declares_iff : Declares dimension line value ↔ readLine? dimension line = some value := by
  unfold readLine?
  rw [Option.bind_eq_some_iff]
  constructor
  · rintro ⟨rest, hwritten, hvalue⟩
    rcases hwritten.ofLine? with ⟨stem, hread⟩
    refine ⟨_, hread, ?_⟩
    rw [isValue_iff.1 hvalue, if_pos]
    exact List.isSuffixOf_iff_suffix.2 (List.suffix_append stem _)
  · rintro ⟨declaration, hread, hvalue⟩
    split at hvalue
    · rename_i hdimension
      rcases exists_written_of_ofLine? hread hdimension with ⟨rest, hwritten, hrest⟩
      cases hvalue
      exact ⟨rest, hwritten, isValue_iff.2 hrest⟩
    · simp at hvalue

theorem declaredValues_eq (dimension : Dimension) (text : List Char) :
    declaredValues dimension text = (Text.lines text).filterMap (readLine? dimension) :=
  List.filterMap_filterMap

/-- The values that are read from lines are those that they declare. -/
theorem valuesOf_iff {parts values : List (List Char)} :
    ValuesOf dimension parts values ↔ values = parts.filterMap (readLine? dimension) := by
  constructor
  · intro h
    induction h with
    | nil => rfl
    | declaring hline _ ih => rw [List.filterMap_cons_some (declares_iff.1 hline), ih]
    | other hline _ ih =>
        rw [List.filterMap_cons_none, ih]
        rw [Option.eq_none_iff_forall_not_mem]
        exact fun value hvalue => hline value (declares_iff.2 hvalue)
  · rintro rfl
    induction parts with
    | nil => exact .nil
    | cons line others ih =>
        cases hread : readLine? dimension line with
        | some value =>
            rw [List.filterMap_cons_some hread]
            exact .declaring (declares_iff.2 hread) ih
        | none =>
            rw [List.filterMap_cons_none hread]
            refine .other (fun value hvalue => ?_) ih
            simp [declares_iff.1 hvalue] at hread

/-- The declared values are those of the lines that declare them. -/
theorem mem_declaredValues_iff :
    value ∈ declaredValues dimension text ↔
      ∃ line ∈ Text.lines text, Declares dimension line value := by
  simp only [declaredValues_eq, List.mem_filterMap, declares_iff]

end Lines
end IconPress
