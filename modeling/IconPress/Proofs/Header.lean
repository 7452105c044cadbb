import IconPress.Icon.Header
import IconPress.Proofs.Outcomes
import Mathlib.Data.List.Sort

/-!
# What a header declares

A header is read value by value, and the first thing that is wrong with it ends the reading.  This
module says, for the values of one dimension and for the whole header, when a number comes out and
which failure is reported otherwise.  A failure that is reported under a class is told apart from
the one that is not: a numeral with too many digits.

Main definitions:

- `Denote`: declared values that all denote one number.
- `DeclaredFault`: what is wrong with the values of a dimension.
- `HeaderFault`: what is wrong with a header.

Main results:

- `scanDimension_eq_some_iff`, `scanDimension_eq_none_iff`, `scanDimension_eq_error_iff`: how the
  reading of a dimension ends.
- `declaredSize_eq_ok_iff`, `declaredSize_eq_error_iff`: how the reading of the size ends.
-/

namespace IconPress

open Text.Numeral (isNumeral digitLimit)

/-! ## Ascending numbers -/

theorem mem_insertAscending {n number : Nat} {numbers : List Nat} :
    n ∈ insertAscending number numbers ↔ n = number ∨ n ∈ numbers := by
  induction numbers with
  | nil => simp [insertAscending]
  | cons least rest ih =>
      rw [insertAscending]
      split
      · simp
      · split
        · rename_i heq
          simp [heq]
        · simp only [List.mem_cons, ih]
          tauto

/-- A number finds its place. -/
theorem pairwise_insertAscending {numbers : List Nat} (number : Nat)
    (h : numbers.Pairwise (· < ·)) : (insertAscending number numbers).Pairwise (· < ·) := by
  induction numbers with
  | nil => simp [insertAscending]
  | cons least rest ih =>
      rw [List.pairwise_cons] at h
      rw [insertAscending]
      split
      · rename_i hlt
        refine List.pairwise_cons.2 ⟨?_, List.pairwise_cons.2 h⟩
        intro n hn
        rcases List.mem_cons.1 hn with rfl | hn
        · exact hlt
        · exact hlt.trans (h.1 n hn)
      · split
        · exact List.pairwise_cons.2 h
        · rename_i hlow hne
          refine List.pairwise_cons.2 ⟨?_, ih h.2⟩
          intro n hn
          rcases mem_insertAscending.1 hn with rfl | hn
          · omega
          · exact h.1 n hn

@[simp]
theorem mem_ascending {n : Nat} {numbers : List Nat} : n ∈ ascending numbers ↔ n ∈ numbers := by
  induction numbers with
  | nil => simp [ascending]
  | cons number rest ih =>
      rw [ascending] at ih
      rw [ascending, List.foldr_cons, mem_insertAscending, ih, List.mem_cons]

theorem pairwise_ascending (numbers : List Nat) : (ascending numbers).Pairwise (· < ·) := by
  induction numbers with
  | nil => simp [ascending]
  | cons number rest ih => exact pairwise_insertAscending number ih

/-- There is one way to put numbers in ascending order, each once. -/
theorem eq_ascending_iff {sorted numbers : List Nat} :
    ascending numbers = sorted ↔
      sorted.Pairwise (· < ·) ∧ ∀ n, n ∈ sorted ↔ n ∈ numbers := by
  constructor
  · rintro rfl
    exact ⟨pairwise_ascending numbers, fun n => mem_ascending⟩
  · rintro ⟨hsorted, hmem⟩
    have hperm : (ascending numbers).Perm sorted := by
      rw [List.perm_ext_iff_of_nodup ((pairwise_ascending numbers).imp Nat.ne_of_lt)
        (hsorted.imp Nat.ne_of_lt)]
      exact fun n => mem_ascending.trans (hmem n).symm
    exact hperm.eq_of_pairwise (fun a b _ _ hab hba => absurd (hab.trans hba) (Nat.lt_irrefl a))
      (pairwise_ascending numbers) hsorted

/-! ## Values -/

/-- A value is a numeral that is short enough to be read. -/
structure IsReadable (value : List Char) : Prop where
  isNumeral : isNumeral value = true
  short : value.length ≤ digitLimit

/-- Why no number comes out of a value, and the class under which this is reported, if any. -/
inductive ValueFault (dimension : Dimension) (value : List Char) :
    Option Failure.Kind → Failure → Prop where
  | notDecimal (hother : isNumeral value = false) :
      ValueFault dimension value (some .malformedHeader)
        (.notDecimal dimension (String.ofList value))
  | tooLong (hnumeral : isNumeral value = true) (hlong : digitLimit < value.length) :
      ValueFault dimension value none (.numeralTooLong value.length)

section Value

variable {dimension : Dimension} {value : List Char} {number : Nat} {kind : Option Failure.Kind}
  {failure : Failure}

theorem ValueFault.kind?_eq (h : ValueFault dimension value kind failure) :
    failure.kind? = kind := by
  cases h <;> rfl

/-- A number comes out of a numeral that is short enough, the one that it denotes. -/
theorem readValue_eq_ok_iff :
    readValue dimension value = .ok number ↔
      IsReadable value ∧ Text.Numeral.value value = number := by
  unfold readValue Text.Numeral.read
  by_cases hnumeral : isNumeral value = true
  · by_cases hshort : value.length ≤ digitLimit
    · have hreadable : IsReadable value := ⟨hnumeral, hshort⟩
      simp [hnumeral, hshort, hreadable]
    · have hreadable : ¬IsReadable value := fun h => hshort h.short
      simp [hnumeral, hshort, hreadable]
  · have hreadable : ¬IsReadable value := fun h => hnumeral h.isNumeral
    simp [hnumeral, hreadable]

theorem readValue_eq_error_iff :
    readValue dimension value = .error failure ↔
      ∃ kind, ValueFault dimension value kind failure := by
  unfold readValue Text.Numeral.read
  constructor
  · intro h
    split at h
    · rename_i hnumeral
      split at h
      · simp at h
      · rename_i digits hdigits
        split at hdigits
        · simp at hdigits
        · rename_i hlong
          cases hdigits
          cases h
          exact ⟨_, .tooLong hnumeral (Nat.lt_of_not_le hlong)⟩
    · rename_i hother
      cases h
      exact ⟨_, .notDecimal (by simpa using hother)⟩
  · rintro ⟨kind, hother | ⟨hnumeral, hlong⟩⟩
    · simp [hother]
    · simp [hnumeral, Nat.not_le_of_lt hlong]

end Value

/-! ## The values of a dimension -/

/-- Values are declared, and all of them denote one number. -/
structure Denote (values : List (List Char)) (number : Nat) : Prop where
  declared : values ≠ []
  agree : ∀ value ∈ values, IsReadable value ∧ Text.Numeral.value value = number

/--
What is wrong with the values declared for a dimension, and the class under which this is
reported, if any: the first value that no number comes out of, or numbers that differ.
-/
inductive DeclaredFault (dimension : Dimension) (values : List (List Char)) :
    Option Failure.Kind → Failure → Prop where
  | value {place : Nat} {value : List Char} {kind : Option Failure.Kind} {failure : Failure}
      (hfirst : FirstAt values IsReadable place value)
      (hvalue : ValueFault dimension value kind failure) :
      DeclaredFault dimension values kind failure
  | conflict {numbers : List Nat} (hreadable : ∀ value ∈ values, IsReadable value)
      (hascending : numbers.Pairwise (· < ·))
      (hnumbers : ∀ n, n ∈ numbers ↔ ∃ value ∈ values, Text.Numeral.value value = n)
      (hseveral : 1 < numbers.length) :
      DeclaredFault dimension values (some .malformedHeader) (.conflicting dimension numbers)

section Declared

variable {dimension : Dimension} {text : List Char} {values : List (List Char)} {number : Nat}
  {kind : Option Failure.Kind} {failure : Failure}

theorem DeclaredFault.kind?_eq (h : DeclaredFault dimension values kind failure) :
    failure.kind? = kind := by
  cases h with
  | value _ hvalue => exact hvalue.kind?_eq
  | conflict => rfl

/-- A numeral among some values is too long to be read, and that is what is reported. -/
def Overlong (values : List (List Char)) (failure : Failure) : Prop :=
  ∃ value ∈ values, isNumeral value = true ∧ digitLimit < value.length ∧
    failure = .numeralTooLong value.length

/-- Values that are numerals can be read. -/
def NumeralsFit (values : List (List Char)) : Prop :=
  ∀ value ∈ values, isNumeral value = true → value.length ≤ digitLimit

instance (values : List (List Char)) : Decidable (NumeralsFit values) :=
  inferInstanceAs (Decidable (∀ value ∈ values, isNumeral value = true → value.length ≤ digitLimit))

theorem NumeralsFit.not_overlong (h : NumeralsFit values) : ¬Overlong values failure := by
  rintro ⟨value, hvalue, hnumeral, hlong, -⟩
  exact Nat.not_lt_of_le (h value hvalue hnumeral) hlong

/-- Values are wrong without a class only when a numeral among them is too long. -/
theorem DeclaredFault.overlong (h : DeclaredFault dimension values none failure) :
    Overlong values failure := by
  cases h with
  | value hfirst hvalue =>
      cases hvalue with
      | tooLong hnumeral hlong =>
          exact ⟨_, List.mem_of_getElem? hfirst.here, hnumeral, hlong, rfl⟩

/-- What is wrong with values does not concern files. -/
theorem DeclaredFault.ne_filesystem (h : DeclaredFault dimension values kind failure) :
    kind ≠ some .filesystem := by
  rintro rfl
  cases h with
  | value _ hvalue => cases hvalue

/-- Numbers come out of values that are short numerals, the numbers that they denote. -/
theorem mapM_readValue_eq_ok_iff {numbers : List Nat} :
    values.mapM (readValue dimension) = .ok numbers ↔
      (∀ value ∈ values, IsReadable value) ∧ numbers = values.map Text.Numeral.value := by
  rw [mapM_eq_ok_iff]
  constructor
  · intro h
    induction h with
    | nil => simp
    | cons hvalue _ ih =>
        rcases readValue_eq_ok_iff.1 hvalue with ⟨hreadable, rfl⟩
        simp [hreadable, ih.2]
        exact ih.1
  · rintro ⟨hreadable, rfl⟩
    rw [List.forall₂_map_right_iff, List.forall₂_same]
    exact fun value hvalue => readValue_eq_ok_iff.2 ⟨hreadable value hvalue, rfl⟩

/-- The first value that no number comes out of ends the reading. -/
theorem mapM_readValue_eq_error_iff :
    values.mapM (readValue dimension) = .error failure ↔
      ∃ kind place value, FirstAt values IsReadable place value ∧
        ValueFault dimension value kind failure := by
  have hread : (fun value => ∃ number, readValue dimension value = .ok number) = IsReadable := by
    funext value
    simp [readValue_eq_ok_iff]
  rw [mapM_eq_error_iff, hread]
  constructor
  · rintro ⟨place, value, hfirst, herror⟩
    rcases readValue_eq_error_iff.1 herror with ⟨kind, hfault⟩
    exact ⟨kind, place, value, hfirst, hfault⟩
  · rintro ⟨kind, place, value, hfirst, hfault⟩
    exact ⟨place, value, hfirst, readValue_eq_error_iff.2 ⟨kind, hfault⟩⟩

/-- The numbers of some values are one number, ascending and each once. -/
theorem ascending_map_eq_singleton_iff :
    ascending (values.map Text.Numeral.value) = [number] ↔
      values ≠ [] ∧ ∀ value ∈ values, Text.Numeral.value value = number := by
  rw [eq_ascending_iff]
  simp only [List.pairwise_singleton, true_and, List.mem_singleton, List.mem_map]
  constructor
  · intro h
    refine ⟨?_, fun value hvalue => (h _).2 ⟨value, hvalue, rfl⟩⟩
    rintro rfl
    simpa using (h number).1 rfl
  · rintro ⟨hne, hall⟩ n
    constructor
    · rintro rfl
      rcases List.exists_mem_of_ne_nil values hne with ⟨value, hvalue⟩
      exact ⟨value, hvalue, hall value hvalue⟩
    · rintro ⟨value, hvalue, rfl⟩
      exact hall value hvalue

theorem ascending_eq_nil_iff {numbers : List Nat} : ascending numbers = [] ↔ numbers = [] := by
  rw [eq_ascending_iff, List.eq_nil_iff_forall_not_mem]
  simp

/-- Where numbers come out of all values, how many different ones decides. -/
theorem scanDimension_of_readable
    (hreadable : ∀ value ∈ declaredValues dimension text, IsReadable value) :
    scanDimension dimension text =
      match ascending ((declaredValues dimension text).map Text.Numeral.value) with
      | [] => .ok none
      | [number] => .ok (some number)
      | numbers => .error (.conflicting dimension numbers) := by
  unfold scanDimension
  rw [mapM_readValue_eq_ok_iff.2 ⟨hreadable, rfl⟩]
  rfl

/-- A dimension has a number when all its values denote it. -/
theorem scanDimension_eq_some_iff :
    scanDimension dimension text = .ok (some number) ↔
      Denote (declaredValues dimension text) number := by
  constructor
  · intro h
    rcases bind_eq_ok_iff.1 h with ⟨numbers, hnumbers, hend⟩
    rcases mapM_readValue_eq_ok_iff.1 hnumbers with ⟨hreadable, rfl⟩
    split at hend
    · simp at hend
    · rename_i hone
      cases hend
      rcases ascending_map_eq_singleton_iff.1 hone with ⟨hne, hall⟩
      exact ⟨hne, fun value hvalue => ⟨hreadable value hvalue, hall value hvalue⟩⟩
    · simp at hend
  · rintro ⟨hne, hagree⟩
    rw [scanDimension_of_readable fun value hvalue => (hagree value hvalue).1,
      ascending_map_eq_singleton_iff.2 ⟨hne, fun value hvalue => (hagree value hvalue).2⟩]

/-- A dimension has no number and no fault when it is not declared. -/
theorem scanDimension_eq_none_iff :
    scanDimension dimension text = .ok none ↔ declaredValues dimension text = [] := by
  constructor
  · intro h
    rcases bind_eq_ok_iff.1 h with ⟨numbers, hnumbers, hend⟩
    rcases mapM_readValue_eq_ok_iff.1 hnumbers with ⟨hreadable, rfl⟩
    split at hend
    · rename_i hnone
      simpa [ascending_eq_nil_iff] using hnone
    · simp at hend
    · simp at hend
  · intro h
    rw [scanDimension_of_readable (by simp [h]), h]
    rfl

/-- What is reported of a dimension is what is wrong with its values. -/
theorem scanDimension_eq_error_iff :
    scanDimension dimension text = .error failure ↔
      ∃ kind, DeclaredFault dimension (declaredValues dimension text) kind failure := by
  constructor
  · intro h
    rcases bind_eq_error_iff.1 h with herror | ⟨numbers, hnumbers, hend⟩
    · rcases mapM_readValue_eq_error_iff.1 herror with ⟨kind, place, value, hfirst, hfault⟩
      exact ⟨kind, .value hfirst hfault⟩
    · rcases mapM_readValue_eq_ok_iff.1 hnumbers with ⟨hreadable, rfl⟩
      split at hend
      · simp at hend
      · simp at hend
      · rename_i hnone hone
        cases hend
        rcases eq_ascending_iff.1 rfl with ⟨hascending, hmem⟩
        refine ⟨_, .conflict hreadable hascending (fun n => (hmem n).trans List.mem_map) ?_⟩
        generalize ascending _ = numbers at hnone hone
        match numbers with
        | [] => exact absurd rfl hnone
        | [number] => exact absurd rfl (hone number)
        | _ :: _ :: _ => simp
  · rintro ⟨kind, hfault⟩
    cases hfault with
    | value hfirst hvalue =>
        exact bind_eq_error_iff.2 (.inl (mapM_readValue_eq_error_iff.2 ⟨_, _, _, hfirst, hvalue⟩))
    | @conflict numbers hreadable hascending hnumbers hseveral =>
        have hsorted : ascending ((declaredValues dimension text).map Text.Numeral.value) =
            numbers :=
          eq_ascending_iff.2 ⟨hascending, fun n => (hnumbers n).trans List.mem_map.symm⟩
        rw [scanDimension_of_readable hreadable, hsorted]
        match numbers with
        | [] => simp at hseveral
        | [_] => simp at hseveral
        | _ :: _ :: _ => rfl

end Declared

/-! ## The size -/

/-- What is wrong with a dimension that has to be declared. -/
inductive RequiredFault (dimension : Dimension) (text : List Char) :
    Option Failure.Kind → Failure → Prop where
  | undeclared (hnone : declaredValues dimension text = []) :
      RequiredFault dimension text (some .malformedHeader) (.undeclared dimension)
  | declared {kind : Option Failure.Kind} {failure : Failure}
      (hfault : DeclaredFault dimension (declaredValues dimension text) kind failure) :
      RequiredFault dimension text kind failure

/--
What is wrong with a header, and the class under which this is reported, if any: the width comes
first, then the height, then both of them together.
-/
inductive HeaderFault (text : List Char) : Option Failure.Kind → Failure → Prop where
  | width {kind : Option Failure.Kind} {failure : Failure}
      (hfault : RequiredFault .width text kind failure) : HeaderFault text kind failure
  | height {width : Nat} {kind : Option Failure.Kind} {failure : Failure}
      (hwidth : Denote (declaredValues .width text) width)
      (hfault : RequiredFault .height text kind failure) : HeaderFault text kind failure
  | notSquare {width height : Nat} (hwidth : Denote (declaredValues .width text) width)
      (hheight : Denote (declaredValues .height text) height) (hdiffer : width ≠ height) :
      HeaderFault text (some .nonSquareGlyph) (.notSquare width height)
  | zero (hwidth : Denote (declaredValues .width text) 0)
      (hheight : Denote (declaredValues .height text) 0) :
      HeaderFault text (some .malformedHeader) .zeroSize

section Size

variable {dimension : Dimension} {text : List Char} {number : Nat} {kind : Option Failure.Kind}
  {failure : Failure}

theorem RequiredFault.kind?_eq (h : RequiredFault dimension text kind failure) :
    failure.kind? = kind := by
  cases h with
  | undeclared => rfl
  | declared hfault => exact hfault.kind?_eq

theorem HeaderFault.kind?_eq (h : HeaderFault text kind failure) : failure.kind? = kind := by
  cases h with
  | width hfault => exact hfault.kind?_eq
  | height _ hfault => exact hfault.kind?_eq
  | notSquare => rfl
  | zero => rfl

/-- A header is wrong without a class only when a numeral in it is too long. -/
theorem HeaderFault.overlong (h : HeaderFault text none failure) :
    ∃ dimension, Overlong (declaredValues dimension text) failure := by
  cases h with
  | width hfault =>
      cases hfault with
      | declared hdeclared => exact ⟨.width, hdeclared.overlong⟩
  | height _ hfault =>
      cases hfault with
      | declared hdeclared => exact ⟨.height, hdeclared.overlong⟩

/-- What is wrong with a header does not concern files. -/
theorem HeaderFault.ne_filesystem (h : HeaderFault text kind failure) :
    kind ≠ some .filesystem := by
  rintro rfl
  cases h with
  | width hfault =>
      cases hfault with
      | declared hdeclared => exact hdeclared.ne_filesystem rfl
  | height _ hfault =>
      cases hfault with
      | declared hdeclared => exact hdeclared.ne_filesystem rfl

theorem requireDimension_eq_ok_iff :
    requireDimension dimension text = .ok number ↔
      Denote (declaredValues dimension text) number := by
  unfold requireDimension
  rw [bind_eq_ok_iff, ← scanDimension_eq_some_iff]
  constructor
  · rintro ⟨_ | found, hfound, hend⟩
    · simp at hend
    · rw [hfound, Except.ok.inj hend]
  · exact fun h => ⟨some number, h, rfl⟩

theorem requireDimension_eq_error_iff :
    requireDimension dimension text = .error failure ↔
      ∃ kind, RequiredFault dimension text kind failure := by
  unfold requireDimension
  rw [bind_eq_error_iff, scanDimension_eq_error_iff]
  constructor
  · rintro (⟨kind, hfault⟩ | ⟨_ | found, hfound, hend⟩)
    · exact ⟨kind, .declared hfault⟩
    · cases hend
      exact ⟨_, .undeclared (scanDimension_eq_none_iff.1 hfound)⟩
    · simp at hend
  · rintro ⟨kind, hnone | hfault⟩
    · exact .inr ⟨none, scanDimension_eq_none_iff.2 hnone, rfl⟩
    · exact .inl ⟨kind, hfault⟩

/-- A header declares a size when width and height both denote it and it is not zero. -/
theorem declaredSize_eq_ok_iff :
    declaredSize text = .ok number ↔ Denote (declaredValues .width text) number ∧
      Denote (declaredValues .height text) number ∧ number ≠ 0 := by
  unfold declaredSize
  simp only [bind_eq_ok_iff, requireDimension_eq_ok_iff]
  constructor
  · rintro ⟨width, hwidth, height, hheight, hend⟩
    split at hend
    · simp at hend
    · rename_i hsame
      obtain rfl : width = height := not_not.1 hsame
      split at hend
      · simp at hend
      · rename_i hzero
        cases hend
        exact ⟨hwidth, hheight, hzero⟩
  · rintro ⟨hwidth, hheight, hzero⟩
    exact ⟨number, hwidth, number, hheight, by simp [hzero]⟩

/-- What is reported of a header is what is wrong with it first. -/
theorem declaredSize_eq_error_iff :
    declaredSize text = .error failure ↔ ∃ kind, HeaderFault text kind failure := by
  unfold declaredSize
  simp only [bind_eq_error_iff, requireDimension_eq_ok_iff, requireDimension_eq_error_iff]
  constructor
  · rintro (⟨kind, hfault⟩ | ⟨width, hwidth, ⟨kind, hfault⟩ | ⟨height, hheight, hend⟩⟩)
    · exact ⟨kind, .width hfault⟩
    · exact ⟨kind, .height hwidth hfault⟩
    · split at hend
      · rename_i hdiffer
        cases hend
        exact ⟨_, .notSquare hwidth hheight hdiffer⟩
      · rename_i hsame
        obtain rfl : width = height := not_not.1 hsame
        split at hend
        · rename_i hzero
          cases hend
          subst hzero
          exact ⟨_, .zero hwidth hheight⟩
        · simp at hend
  · rintro ⟨kind, hfault⟩
    cases hfault with
    | width hfault => exact .inl ⟨kind, hfault⟩
    | height hwidth hfault => exact .inr ⟨_, hwidth, .inl ⟨kind, hfault⟩⟩
    | notSquare hwidth hheight hdiffer =>
        exact .inr ⟨_, hwidth, .inr ⟨_, hheight, by simp [hdiffer]⟩⟩
    | zero hwidth hheight => exact .inr ⟨0, hwidth, .inr ⟨0, hheight, rfl⟩⟩

/-- The size of a text is the declared one. -/
theorem outcome_scanSize {text : String} :
    (scanSize text).outcome = declaredSize text.toList := by
  simp only [scanSize, Traced.outcome_bind, Traced.outcome_quiet, Traced.outcome_note,
    Traced.outcome_pure]
  cases declaredSize text.toList <;> rfl

end Size

/-- A header that declares icons of five pixels. -/
def smallHeader : String :=
  "#define A_FRAME_WIDTH 5\n#define A_FRAME_HEIGHT 5\n"

theorem declaredSize_smallHeader : declaredSize smallHeader.toList = .ok 5 := by
  decide +kernel

end IconPress
