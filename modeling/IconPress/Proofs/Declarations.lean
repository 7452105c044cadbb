import IconPress.Icon.Header
import IconPress.Proofs.Braces
import IconPress.Proofs.Numerals

/-!
# Declarations as they are written

A declaration stands on a line of its own: a word, a name that ends in a dimension, and a numeral.
This module says what the header of a text declares that is put together from such lines and from
text without any declaration.

Main definitions:

- `OpensComment`: a text that begins with the sign of a comment.
- `declarationLine`: a declaration as it is written.

Main results:

- `declaredValues_append_newline`: a header is read line by line.
- `declaredValues_declarationLine`: what a declaration declares, for its own dimension only.
- `declaredValues_of_not_mem`: other text declares nothing.
-/

namespace IconPress

open Text (isWordChar isBlank)
open Text.Numeral (isDigit isNumeral)

/-! ## Runs of a class -/

section Runs

variable {p : Char → Bool} {front rest : List Char}

theorem not_of_mem_head?_dropWhile {text : List Char} {c : Char}
    (h : c ∈ (text.dropWhile p).head?) : p c = false := by
  have hhead := List.head?_dropWhile_not p text
  rw [Option.mem_def] at h
  rwa [h] at hhead

/-- A run ends where the class does. -/
theorem dropWhile_run (hfront : ∀ c ∈ front, p c = true) (hrest : ∀ c ∈ rest.head?, p c = false) :
    (front ++ rest).dropWhile p = rest := by
  rw [List.dropWhile_append_of_pos hfront]
  cases rest with
  | nil => rfl
  | cons c rest => exact List.dropWhile_cons_of_neg (by simp [hrest c rfl])

theorem takeWhile_run (hfront : ∀ c ∈ front, p c = true) (hrest : ∀ c ∈ rest.head?, p c = false) :
    (front ++ rest).takeWhile p = front := by
  rw [List.takeWhile_append_of_pos hfront]
  cases rest with
  | nil => exact List.append_nil front
  | cons c rest => rw [List.takeWhile_cons_of_neg (by simp [hrest c rfl]), List.append_nil]

end Runs

/-! ## Characters -/

/-- The space between words belongs to no class of characters that lacks blank and tab. -/
theorem isGap_of_class {p : Char → Bool} {c : Char} (hspace : p ' ' = false) (htab : p '\t' = false)
    (h : p c = true) : isGap c = false := by
  rw [Bool.eq_false_iff]
  intro hgap
  simp only [isGap, Bool.or_eq_true, decide_eq_true_eq] at hgap
  rcases hgap with rfl | rfl
  · simp [hspace] at h
  · simp [htab] at h

theorem isGap_of_isWordChar {c : Char} (h : isWordChar c = true) : isGap c = false :=
  isGap_of_class (by decide) (by decide) h

theorem isGap_of_isDigit {c : Char} (h : isDigit c = true) : isGap c = false :=
  isGap_of_class (by decide) (by decide) h

theorem isBlank_of_isDigit {c : Char} (h : isDigit c = true) : isBlank c = false := by
  simp only [isDigit, Bool.and_eq_true, decide_eq_true_eq] at h
  rw [Bool.eq_false_iff]
  intro hblank
  simp only [isBlank, Bool.or_eq_true, Bool.and_eq_true, decide_eq_true_eq, beq_iff_eq] at hblank
  omega

theorem isWordChar_of_isDigit {c : Char} (h : isDigit c = true) : isWordChar c = true := by
  have hdigit : c.isDigit = true := by
    simp only [isDigit, Bool.and_eq_true, decide_eq_true_eq] at h
    simpa [Char.isDigit, UInt32.le_iff_toNat_le] using h
  have hascii : c.toNat < 128 := by
    simp only [isDigit, Bool.and_eq_true, decide_eq_true_eq] at h
    omega
  simp [isWordChar, hascii, Char.isAlphanum, hdigit]

/-- Nothing is cut off a numeral. -/
theorem dropWhile_of_isNumeral {p : Char → Bool} {value : List Char}
    (hp : ∀ c, isDigit c = true → p c = false) (h : isNumeral value = true) :
    value.dropWhile p = value := by
  simp only [isNumeral, Bool.and_eq_true, List.all_eq_true] at h
  cases value with
  | nil => simp at h
  | cons first rest => simp [hp first (h.2 first List.mem_cons_self)]

/-- A text begins with the sign of a comment. -/
def OpensComment (text : List Char) : Prop :=
  ['/', '/'] <+: text ∨ ['/', '*'] <+: text

theorem uncommented_of_opensComment {text : List Char} (h : OpensComment text) :
    uncommented text = [] := by
  rcases h with ⟨rest, rfl⟩ | ⟨rest, rfl⟩ <;> simp [uncommented]

theorem uncommented_cons {c : Char} {rest : List Char} (h : ¬OpensComment (c :: rest)) :
    uncommented (c :: rest) = c :: uncommented rest := by
  rw [uncommented]
  · rintro more rfl rfl
    exact h (.inl ⟨more, rfl⟩)
  · rintro more rfl rfl
    exact h (.inr ⟨more, rfl⟩)

theorem uncommented_of_isNumeral {value : List Char} (h : isNumeral value = true) :
    uncommented value = value := by
  have hslash : '/' ∉ value := Text.Numeral.not_mem_of_isNumeral (by decide) h
  clear h
  induction value with
  | nil => rfl
  | cons c rest ih =>
      rw [List.mem_cons, not_or] at hslash
      rw [uncommented_cons, ih hslash.2]
      rintro (⟨more, hmore⟩ | ⟨more, hmore⟩) <;> simp [hslash.1] at hmore

theorem trim_of_isNumeral {value : List Char} (h : isNumeral value = true) :
    Text.trim value = value := by
  have hreverse : isNumeral value.reverse = true := by
    simpa [isNumeral] using h
  rw [Text.trim, Text.trimEnd, dropWhile_of_isNumeral (fun _ => isBlank_of_isDigit) h,
    dropWhile_of_isNumeral (fun _ => isBlank_of_isDigit) hreverse, List.reverse_reverse]

/-! ## Lines -/

/-- A declaration as it is written. -/
def declarationLine (name value : List Char) : List Char :=
  "#define ".toList ++ (name ++ ' ' :: value)

section Lines

variable {line : List Char}

/-- A header is read line by line. -/
theorem declaredValues_append_newline (dimension : Dimension) (front back : List Char) :
    declaredValues dimension (front ++ '\n' :: back) =
      declaredValues dimension front ++ declaredValues dimension back := by
  simp [declaredValues]

/-- A line that does not begin like a declaration is none. -/
theorem ofLine?_of_not_mem (h : '#' ∉ line) : Declaration.ofLine? line = none := by
  have hhash : afterWord? "#" (line.dropWhile isGap) = none := by
    rw [afterWord?, if_neg]
    intro hprefix
    have hmem : '#' ∈ line.dropWhile isGap :=
      (List.isPrefixOf_iff_prefix.1 hprefix).subset List.mem_cons_self
    exact h ((List.dropWhile_sublist isGap).subset hmem)
  rw [Declaration.ofLine?, hhash]
  rfl

/-- Text without the mark of a declaration declares nothing. -/
theorem declaredValues_of_not_mem {dimension : Dimension} {text : List Char} (h : '#' ∉ text) :
    declaredValues dimension text = [] := by
  have hnone : (Text.lines text).filterMap Declaration.ofLine? = [] := by
    rw [List.filterMap_eq_nil_iff]
    exact fun line hline => ofLine?_of_not_mem fun hmem => h (Text.mem_of_mem_pieces hline hmem)
  rw [declaredValues, hnone]
  rfl

/-- A declaration is read as it is written. -/
theorem ofLine?_declarationLine {name value : List Char} (hname : name ≠ [])
    (hword : ∀ c ∈ name, isWordChar c = true) (hvalue : isNumeral value = true) :
    Declaration.ofLine? (declarationLine name value) = some ⟨name, value⟩ := by
  have hstart : (' ' :: (name ++ ' ' :: value)).dropWhile isGap = name ++ ' ' :: value := by
    rcases List.exists_cons_of_ne_nil hname with ⟨first, rest, rfl⟩
    have hfirst := isGap_of_isWordChar (hword first List.mem_cons_self)
    rw [List.cons_append, List.dropWhile_cons_of_pos (by decide),
      List.dropWhile_cons_of_neg (by simp [hfirst])]
  have hend : ((name ++ ' ' :: value).dropWhile isWordChar).dropWhile isGap = value := by
    rw [dropWhile_run hword (by simp; decide), List.dropWhile_cons_of_pos (by decide),
      dropWhile_of_isNumeral (fun _ => isGap_of_isDigit) hvalue]
  have htaken : (name ++ ' ' :: value).takeWhile isWordChar = name :=
    takeWhile_run hword (by simp; decide)
  have hhash : (declarationLine name value).dropWhile isGap = declarationLine name value := rfl
  have hafterHash : afterWord? "#" (declarationLine name value) =
      some ("define ".toList ++ (name ++ ' ' :: value)) := rfl
  have hdefine : ("define ".toList ++ (name ++ ' ' :: value)).dropWhile isGap =
      "define ".toList ++ (name ++ ' ' :: value) := rfl
  have hafterDefine : afterWord? "define" ("define ".toList ++ (name ++ ' ' :: value)) =
      some (' ' :: (name ++ ' ' :: value)) := rfl
  simp only [Declaration.ofLine?, hhash, hafterHash, hdefine, hafterDefine, Option.bind_eq_bind,
    Option.bind_some, hstart, hend, htaken, uncommented_of_isNumeral hvalue,
    trim_of_isNumeral hvalue]
  simp

end Lines

/-! ## Dimensions -/

theorem isWordChar_of_mem_nameEnd {dimension : Dimension} {c : Char}
    (h : c ∈ Declaration.nameEnd dimension) : isWordChar c = true := by
  have hall : ∀ d ∈ Declaration.nameEnd dimension, isWordChar d = true := by
    cases dimension <;> exact Text.forall_mem_of_all (by decide)
  exact hall c h

theorem isWordChar_of_mem_name {dimension : Dimension} {stem : List Char} {c : Char}
    (hstem : ∀ c ∈ stem, isWordChar c = true) (h : c ∈ stem ++ Declaration.nameEnd dimension) :
    isWordChar c = true := by
  rcases List.mem_append.1 h with h | h
  · exact hstem c h
  · exact isWordChar_of_mem_nameEnd h

/-- The mark of a declaration and its spaces are the only characters outside of words. -/
theorem mem_declarationLine {dimension : Dimension} {stem value : List Char} {c : Char}
    (hstem : ∀ c ∈ stem, isWordChar c = true) (hvalue : isNumeral value = true)
    (h : c ∈ declarationLine (stem ++ Declaration.nameEnd dimension) value) :
    c = '#' ∨ c = ' ' ∨ isWordChar c = true := by
  have hstart : ∀ c ∈ "#define ".toList, c = '#' ∨ c = ' ' ∨ isWordChar c = true :=
    Text.forall_mem_of_all (by decide)
  rcases List.mem_append.1 h with h | h
  · exact hstart c h
  rcases List.mem_append.1 h with h | h
  · exact .inr (.inr (isWordChar_of_mem_name hstem h))
  rcases List.mem_cons.1 h with rfl | h
  · exact .inr (.inl rfl)
  · simp only [isNumeral, Bool.and_eq_true, List.all_eq_true] at hvalue
    exact .inr (.inr (isWordChar_of_isDigit (hvalue.2 c h)))

/-- A name ends in one dimension. -/
theorem nameEnd_suffix_iff {dimension other : Dimension} (stem : List Char) :
    Declaration.nameEnd other <:+ stem ++ Declaration.nameEnd dimension ↔ dimension = other := by
  constructor
  · intro hother
    have hsuffix := List.suffix_or_suffix_of_suffix hother (List.suffix_append stem _)
    revert hsuffix
    cases dimension <;> cases other <;> decide
  · rintro rfl
    exact List.suffix_append stem _

theorem isBrace_of_isWordChar {c : Char} (h : isWordChar c = true) : isBrace c = false := by
  rw [Bool.eq_false_iff]
  intro hbrace
  simp only [isBrace, Bool.or_eq_true, decide_eq_true_eq] at hbrace
  rcases hbrace with rfl | rfl
  · exact absurd h (by decide)
  · exact absurd h (by decide)

/-- A declaration is no part of the blocks. -/
theorem isBrace_of_mem_declarationLine {dimension : Dimension} {stem value : List Char} {c : Char}
    (hstem : ∀ c ∈ stem, isWordChar c = true) (hvalue : isNumeral value = true)
    (h : c ∈ declarationLine (stem ++ Declaration.nameEnd dimension) value) :
    isBrace c = false := by
  rcases mem_declarationLine hstem hvalue h with rfl | rfl | hword
  · rfl
  · rfl
  · exact isBrace_of_isWordChar hword

/-- A declaration declares its value, for the dimension that its name ends in. -/
theorem declaredValues_declarationLine {dimension other : Dimension} {stem value : List Char}
    (hstem : ∀ c ∈ stem, isWordChar c = true) (hvalue : isNumeral value = true) :
    declaredValues other (declarationLine (stem ++ Declaration.nameEnd dimension) value) =
      if dimension = other then [value] else [] := by
  have hname : stem ++ Declaration.nameEnd dimension ≠ [] := by
    cases dimension <;> simp [Declaration.nameEnd]
  have hline : '\n' ∉ declarationLine (stem ++ Declaration.nameEnd dimension) value := fun hmem =>
    absurd (mem_declarationLine hstem hvalue hmem) (by decide)
  have hread := ofLine?_declarationLine hname (fun _ => isWordChar_of_mem_name hstem) hvalue
  rw [declaredValues, Text.lines_of_not_mem hline, List.filterMap_cons_some hread]
  by_cases hsame : dimension = other
  · simp [Declaration.declares, hsame]
  · simp [Declaration.declares, nameEnd_suffix_iff, hsame]

end IconPress
