import IconPress.Proofs.DeclarationPattern
import IconPress.Proofs.Header

/-!
# A header line by line

What the scanner makes of a header, put in terms of its lines.  Every line declares one value or
says nothing, whether the values are read line by line or searched for with a pattern; what becomes
of the header follows from the values.  A numeral that is too long to be read is the only one whose
failure has no class, so that here there is none.

Main definitions:

- `NumeralsShort`: a text that declares no numeral that is too long.

Main results:

- `header_line_by_line`: the size and the number of icons that a header declares, and all that can
  be wrong with it, in the order in which it is noticed.
-/

namespace IconPress

open Text.Numeral (isNumeral digitLimit)

/-- No numeral that a line declares for a dimension is too long to be read. -/
def NumeralsShort (text : List Char) : Prop :=
  ∀ dimension, ∀ line ∈ Text.lines text, ∀ value, Declares dimension line value →
    isNumeral value = true → value.length ≤ digitLimit

section Short

variable {text : List Char} {dimension : Dimension} {kind : Option Failure.Kind}
  {failure : Failure}

theorem numeralsShort_iff :
    NumeralsShort text ↔ ∀ dimension, NumeralsFit (declaredValues dimension text) := by
  simp only [NumeralsShort, NumeralsFit, mem_declaredValues_iff]
  exact ⟨fun h dimension value ⟨line, hline, hvalue⟩ => h dimension line hline value hvalue,
    fun h dimension line hline value hvalue => h dimension value ⟨line, hline, hvalue⟩⟩

/-- Where numerals are short, what is wrong with a header has a class. -/
theorem NumeralsShort.exists_kind (h : NumeralsShort text)
    (hfault : HeaderFault text kind failure) : ∃ reported, kind = some reported := by
  cases kind with
  | some reported => exact ⟨reported, rfl⟩
  | none =>
      rcases hfault.overlong with ⟨dimension, hlong⟩
      exact absurd hlong (numeralsShort_iff.1 h dimension).not_overlong

/-- Where numerals are short, what is wrong with the values of a dimension makes a header bad. -/
theorem NumeralsShort.kind_eq (h : NumeralsShort text)
    (hfault : DeclaredFault dimension (declaredValues dimension text) kind failure) :
    kind = some .malformedHeader := by
  cases hfault with
  | conflict => rfl
  | value hfirst hvalue =>
      cases hvalue with
      | notDecimal => rfl
      | tooLong hnumeral hlong =>
          have hmem := List.mem_of_getElem? hfirst.here
          have hshort := numeralsShort_iff.1 h dimension _ hmem hnumeral
          exact absurd hlong (Nat.not_lt_of_le hshort)

end Short

/--
A header is read line by line.  The values of a dimension are those that lines declare for it, and
a search with the pattern finds the same.  The size is the positive number that all widths and all
heights denote; otherwise the first fault is reported under its class: of the width before the
height, a missing declaration, the first value that is no numeral or numbers that differ, then a
width that is not the height, then a zero.  The number of icons follows the same rules, and there
is none where none is declared.
-/
theorem header_line_by_line (text : String) (hshort : NumeralsShort text.toList) :
    (∀ dimension values, ValuesOf dimension (Text.lines text.toList) values ↔
      values = declaredValues dimension text.toList) ∧
    (∀ dimension, foundValues dimension text.toList = declaredValues dimension text.toList) ∧
    (∀ size, (scanSize text).outcome = .ok size ↔
      1 ≤ size ∧ Denote (declaredValues .width text.toList) size ∧
        Denote (declaredValues .height text.toList) size) ∧
    (∀ failure, (scanSize text).outcome = .error failure ↔
      ∃ kind, HeaderFault text.toList (some kind) failure) ∧
    (∀ kind failure, HeaderFault text.toList (some kind) failure → failure.kind? = some kind) ∧
    (∀ count, scanCount text = .ok (some count) ↔
      Denote (declaredValues .count text.toList) count) ∧
    (scanCount text = .ok none ↔ declaredValues .count text.toList = []) ∧
    ∀ failure, scanCount text = .error failure ↔
      DeclaredFault .count (declaredValues .count text.toList) (some .malformedHeader) failure := by
  refine ⟨?_, fun dimension => foundValues_eq dimension text.toList, ?_, ?_,
    fun kind failure hfault => hfault.kind?_eq, fun count => scanDimension_eq_some_iff,
    scanDimension_eq_none_iff, ?_⟩
  · intro dimension values
    rw [valuesOf_iff, declaredValues_eq]
  · intro size
    rw [outcome_scanSize, declaredSize_eq_ok_iff, Nat.one_le_iff_ne_zero]
    tauto
  · intro failure
    rw [outcome_scanSize, declaredSize_eq_error_iff]
    constructor
    · rintro ⟨kind, hfault⟩
      rcases hshort.exists_kind hfault with ⟨reported, rfl⟩
      exact ⟨reported, hfault⟩
    · rintro ⟨kind, hfault⟩
      exact ⟨some kind, hfault⟩
  · intro failure
    rw [scanCount, scanDimension_eq_error_iff]
    constructor
    · rintro ⟨kind, hfault⟩
      exact hshort.kind_eq hfault ▸ hfault
    · exact fun hfault => ⟨_, hfault⟩

/-- A header with a name that holds two endings, a comment and a zero in front. -/
def mixedHeader : String :=
  "#define A_FRAME_HEIGHT_FRAME_WIDTH 5 // px\n \t# define _FRAME_HEIGHT\t05/* px */\r\n"

/-- The last ending of a name counts, and the comment and the zero do not. -/
theorem header_line_by_line_mixedHeader :
    NumeralsShort mixedHeader.toList ∧ (scanSize mixedHeader).outcome = .ok 5 ∧
      scanCount mixedHeader = .ok none := by
  have hwidth : declaredValues .width mixedHeader.toList = [['5']] := by decide +kernel
  have hheight : declaredValues .height mixedHeader.toList = [['0', '5']] := by decide +kernel
  have hcount : declaredValues .count mixedHeader.toList = [] := by decide +kernel
  have hshort : NumeralsShort mixedHeader.toList := by
    rw [numeralsShort_iff]
    intro dimension
    cases dimension with
    | width => rw [hwidth]; decide
    | height => rw [hheight]; decide
    | count => rw [hcount]; decide
  rcases header_line_by_line mixedHeader hshort with ⟨-, -, hsize, -, -, -, hnone, -⟩
  have hfive : ∀ value, value = ['5'] ∨ value = ['0', '5'] →
      IsReadable value ∧ Text.Numeral.value value = 5 := by
    rintro value (rfl | rfl) <;> exact ⟨⟨by decide, by decide⟩, by decide⟩
  refine ⟨hshort, (hsize 5).2 ⟨by decide, ?_, ?_⟩, hnone.2 hcount⟩
  · rw [hwidth]
    exact ⟨by simp, fun value hvalue => hfive value (.inl (List.mem_singleton.1 hvalue))⟩
  · rw [hheight]
    exact ⟨by simp, fun value hvalue => hfive value (.inr (List.mem_singleton.1 hvalue))⟩

end IconPress
