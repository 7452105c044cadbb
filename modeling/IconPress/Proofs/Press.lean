import IconPress.Proofs.Declarations
import IconPress.Proofs.Nesting
import IconPress.Proofs.Verdict

/-!
# From a text to a document

A text whose header declares the size makes a sheet, and the sheet is compiled.  What is wrong with
a text is wrong with its header, or else with the sheet.  All of that is reported under a class,
except for numbers: a numeral may have too many digits to be read, and the number of pixels of an
icon may have too many to be written.

Main definitions:

- `pressText`: the document of a text.
- `TextFault`: what is wrong with a text first.

Main results:

- `pressText_eq_error_iff`: what is wrong with a text first is reported.
- `pressText_failure`: which failures have a class.
-/

namespace IconPress

open Text.Numeral (isNumeral digitLimit)

/-- The document of a text whose header declares the size of the icons. -/
def pressText (settings : Settings) (obstacle : Option String) (text source : String) :
    Traced Document := do
  let size ← scanSize text
  compile settings obstacle ⟨text, size, source⟩

/-- What is wrong with a text first, and the class under which this is reported, if any. -/
inductive TextFault (settings : Settings) (text source : String) :
    Option Failure.Kind → Failure → Prop where
  | header {kind : Option Failure.Kind} {failure : Failure}
      (hfault : HeaderFault text.toList kind failure) : TextFault settings text source kind failure
  | sheet {size : Nat} {kind : Option Failure.Kind} {failure : Failure}
      (hsize : declaredSize text.toList = .ok size)
      (hfault : SheetFault settings ⟨text, size, source⟩ kind failure) :
      TextFault settings text source kind failure

section Press

variable {settings : Settings} {obstacle : Option String} {text source : String}
  {kind : Option Failure.Kind} {failure : Failure}

/-- First the header is read, then the sheet is compiled. -/
theorem outcome_pressText :
    (pressText settings obstacle text source).outcome = (do
      let size ← declaredSize text.toList
      (compile settings obstacle ⟨text, size, source⟩).outcome) := by
  rw [pressText, Traced.outcome_bind, outcome_scanSize]

/-- A size that is declared is not zero. -/
theorem one_le_of_declaredSize {size : Nat} (h : declaredSize text.toList = .ok size) :
    (1 : Int) ≤ size := by
  have hpositive := (declaredSize_eq_ok_iff.1 h).2.2
  omega

/-- A size that is declared may be written, as its numeral could be read. -/
theorem fits_of_declaredSize {size : Nat} (h : declaredSize text.toList = .ok size) :
    Text.Numeral.fits size = true := by
  have hdenote := (declaredSize_eq_ok_iff.1 h).1
  rcases List.exists_mem_of_ne_nil _ hdenote.declared with ⟨numeral, hmem⟩
  rcases hdenote.agree numeral hmem with ⟨⟨hnumeral, hshort⟩, rfl⟩
  rw [Text.Numeral.fits_iff, Int.natAbs_natCast]
  exact Nat.lt_of_lt_of_le (Text.Numeral.value_lt (Text.Numeral.isDigit_of_isNumeral hnumeral))
    (Nat.pow_le_pow_right (by decide) hshort)

/-- What is reported of a text is what is wrong with it first. -/
theorem pressText_eq_error_iff :
    (pressText settings obstacle text source).outcome = .error failure ↔
      ∃ kind, TextFault settings text source kind failure := by
  rw [outcome_pressText, bind_eq_error_iff, declaredSize_eq_error_iff]
  constructor
  · rintro (⟨kind, hfault⟩ | ⟨size, hsize, herror⟩)
    · exact ⟨kind, .header hfault⟩
    · rcases (compile_eq_error_iff_of_fits (one_le_of_declaredSize hsize)
        (fits_of_declaredSize hsize)).1 herror with ⟨kind, hfault⟩
      exact ⟨kind, .sheet hsize hfault⟩
  · rintro ⟨kind, hfault⟩
    cases hfault with
    | header hfault => exact .inl ⟨kind, hfault⟩
    | sheet hsize hfault =>
        exact .inr ⟨_, hsize, hfault.compile_eq_error obstacle (one_le_of_declaredSize hsize)⟩

theorem TextFault.kind?_eq (h : TextFault settings text source kind failure) :
    failure.kind? = kind := by
  cases h with
  | header hfault => exact hfault.kind?_eq
  | sheet _ hfault => exact hfault.kind?_eq

theorem TextFault.ne_filesystem (h : TextFault settings text source kind failure) :
    kind ≠ some .filesystem := by
  cases h with
  | header hfault => exact hfault.ne_filesystem
  | sheet _ hfault => exact hfault.ne_filesystem

/-- A text is wrong without a class only where a number has too many digits. -/
theorem TextFault.overlong (h : TextFault settings text source none failure) :
    (∃ dimension, Overlong (declaredValues dimension text.toList) failure) ∨
      ∃ size, declaredSize text.toList = .ok size ∧ 10 ^ digitLimit ≤ size * size ∧
        failure = .numberTooLarge := by
  cases h with
  | header hfault => exact .inl hfault.overlong
  | @sheet size _ _ hsize hfault =>
      rcases hfault.overlong with hcount | ⟨hlarge, hfailure⟩
      · exact .inl ⟨.count, hcount⟩
      · refine .inr ⟨size, hsize, ?_, hfailure⟩
        rwa [Text.Numeral.fits_eq_false_iff, ← Int.natCast_mul, Int.natAbs_natCast] at hlarge

end Press

/--
How a text fails: with what is wrong with it first, which concerns the header or the icons and has
a class.  The only failures without a class are about numbers with too many digits: a numeral of
the header that cannot be read, or the number of pixels of an icon that cannot be written.
-/
theorem pressText_failure (settings : Settings) (obstacle : Option String)
    (text source : String) :
    let outcome := (pressText settings obstacle text source).outcome
    (∀ failure, outcome = .error failure ↔ ∃ kind, TextFault settings text source kind failure) ∧
    (∀ kind failure, TextFault settings text source kind failure →
      failure.kind? = kind ∧ kind ≠ some .filesystem) ∧
    (∀ failure, outcome = .error failure → failure.kind? = none →
      (∃ dimension, Overlong (declaredValues dimension text.toList) failure) ∨
      ∃ size, declaredSize text.toList = .ok size ∧ 10 ^ digitLimit ≤ size * size ∧
        failure = .numberTooLarge) := by
  intro outcome
  refine ⟨fun failure => pressText_eq_error_iff,
    fun kind failure hfault => ⟨hfault.kind?_eq, hfault.ne_filesystem⟩, ?_⟩
  intro failure herror hnone
  rcases pressText_eq_error_iff.1 herror with ⟨kind, hfault⟩
  have hkind := hfault.kind?_eq
  rw [hnone] at hkind
  subst hkind
  exact hfault.overlong

/-! ## A size whose square has too many digits -/

/-- A power of ten as a numeral. -/
def powerOfTen (exponent : Nat) : List Char :=
  '1' :: List.replicate exponent '0'

theorem isNumeral_powerOfTen (exponent : Nat) : isNumeral (powerOfTen exponent) = true := by
  simp only [isNumeral, powerOfTen, List.isEmpty_cons, Bool.not_false, List.all_cons,
    List.all_replicate, Bool.true_and]
  cases exponent <;> rfl

theorem value_powerOfTen (exponent : Nat) :
    Text.Numeral.value (powerOfTen exponent) = 10 ^ exponent := by
  have hfold : ∀ count start, (List.replicate count '0').foldl
      (fun n (d : Char) => 10 * n + (d.toNat - 48)) start = 10 ^ count * start := by
    intro count
    induction count with
    | zero => simp
    | succ count ih =>
        intro start
        rw [List.replicate_succ, List.foldl_cons, ih, Nat.pow_succ, Nat.mul_assoc]
        rfl
  rw [powerOfTen, Text.Numeral.value, List.foldl_cons, hfold]
  exact Nat.mul_one _

/-- The lines of a header that declare a width and a height. -/
def squareHeader (stem value : List Char) : List Char :=
  declarationLine (stem ++ Declaration.nameEnd .width) value ++
    '\n' :: (declarationLine (stem ++ Declaration.nameEnd .height) value ++ ['\n'])

/-- Both lines declare the value. -/
theorem declaredValues_squareHeader {stem value body : List Char} (dimension : Dimension)
    (hstem : ∀ c ∈ stem, Text.isWordChar c = true) (hvalue : isNumeral value = true)
    (hbody : '#' ∉ body) :
    declaredValues dimension (squareHeader stem value ++ body) =
      if dimension = .count then [] else [value] := by
  have hlines : squareHeader stem value ++ body =
      declarationLine (stem ++ Declaration.nameEnd .width) value ++
        '\n' :: (declarationLine (stem ++ Declaration.nameEnd .height) value ++ '\n' :: body) := by
    simp [squareHeader]
  rw [hlines, declaredValues_append_newline, declaredValues_append_newline,
    declaredValues_declarationLine hstem hvalue, declaredValues_declarationLine hstem hvalue,
    declaredValues_of_not_mem hbody]
  cases dimension <;> rfl

theorem isBrace_of_mem_squareHeader {stem value : List Char}
    (hstem : ∀ c ∈ stem, Text.isWordChar c = true) (hvalue : isNumeral value = true) :
    ∀ c ∈ squareHeader stem value, isBrace c = false := by
  intro c hc
  rw [squareHeader, List.mem_append, List.mem_cons, List.mem_append, List.mem_singleton] at hc
  rcases hc with hc | rfl | hc | rfl
  · exact isBrace_of_mem_declarationLine hstem hvalue hc
  · rfl
  · exact isBrace_of_mem_declarationLine hstem hvalue hc
  · rfl

/-- A text with one block, which begins where the text in front of it ends. -/
theorem innermostBlocks_of_single {front body : List Char} (hfront : front ≠ [])
    (hbody : body ≠ []) (hplain : ∀ c ∈ front, isBrace c = false)
    (hinside : ∀ c ∈ body, isBrace c = false) :
    innermostBlocks (String.ofList (front ++ '{' :: (body ++ ['}']))) =
      .ok [⟨String.ofList body, Position.start.afterAll front⟩] := by
  have hproper : (Content.text front (.block (.text body .nothing) .nothing)).Proper :=
    ⟨hfront, hplain, rfl, ⟨hbody, hinside, rfl, trivial⟩, trivial⟩
  rw [Content.innermostBlocks_spell hproper]
  · simp [Content.blocks, Content.hasBlock, Content.spell]
  · simp [Content.spell]

/-- A text that declares a size whose square has one digit too many. -/
def wideText : String :=
  String.ofList (squareHeader ['A'] (powerOfTen safeDigits) ++
    '{' :: ("0xff000000".toList ++ ['}']))

/-- The size that is declared. -/
theorem declaredSize_wideText : declaredSize wideText.toList = .ok (10 ^ safeDigits) := by
  have hvalues := fun dimension => declaredValues_squareHeader dimension
    (Text.forall_mem_of_all (by decide) : ∀ c ∈ ['A'], Text.isWordChar c = true)
    (isNumeral_powerOfTen safeDigits)
    (by decide : '#' ∉ '{' :: ("0xff000000".toList ++ ['}']))
  have hshort : (powerOfTen safeDigits).length ≤ digitLimit := by
    rw [powerOfTen, List.length_cons, List.length_replicate]
    decide
  have hdenote : Denote [powerOfTen safeDigits] (10 ^ safeDigits) := by
    refine ⟨by simp, fun value hvalue => ?_⟩
    rw [List.mem_singleton] at hvalue
    subst hvalue
    exact ⟨⟨isNumeral_powerOfTen safeDigits, hshort⟩, value_powerOfTen safeDigits⟩
  rw [declaredSize_eq_ok_iff, wideText, String.toList_ofList, hvalues, hvalues]
  exact ⟨hdenote, hdenote, Nat.pos_iff_ne_zero.1 (Nat.pow_pos (by decide))⟩

/-- The one pixel of this text is too few, but the number that there should be cannot be written. -/
theorem pressText_failure_wideText :
    (pressText Settings.standard none wideText unknownSource).outcome = .error .numberTooLarge ∧
      Failure.numberTooLarge.kind? = none := by
  obtain ⟨position, hblocks⟩ : ∃ position,
      innermostBlocks wideText = .ok [⟨"0xff000000", position⟩] := by
    have hnumeral := isNumeral_powerOfTen safeDigits
    have hblock := innermostBlocks_of_single
      (by simp [squareHeader] : squareHeader ['A'] (powerOfTen safeDigits) ≠ [])
      (by decide : "0xff000000".toList ≠ [])
      (isBrace_of_mem_squareHeader (Text.forall_mem_of_all (by decide)) hnumeral)
      (Text.forall_mem_of_all (by decide))
    rw [String.ofList_toList] at hblock
    exact ⟨_, hblock⟩
  refine ⟨pressText_eq_error_iff.2 ⟨none, .sheet declaredSize_wideText ?_⟩, rfl⟩
  have hlarge : Text.Numeral.fits
      (((10 ^ safeDigits : Nat) : Int) * ((10 ^ safeDigits : Nat) : Int)) = false := by
    have hdouble : safeDigits + safeDigits = digitLimit := by decide
    rw [Text.Numeral.fits_eq_false_iff, ← Int.natCast_mul, Int.natAbs_natCast, ← Nat.pow_add,
      hdouble]
  have htokens : Block.tokens ⟨"0xff000000", position⟩ = ["0xff000000".toList] := by
    dsimp only [Block.tokens]
    decide
  have hfirst : FirstAt [⟨"0xff000000", position⟩]
      (HoldsPicture Settings.standard (10 ^ safeDigits : Nat)) 0 ⟨"0xff000000", position⟩ :=
    ⟨rfl, fun _ _ hless => absurd hless (Nat.not_lt_zero _)⟩
  refine .block hblocks hfirst (.unwritable ?_ ?_ hlarge)
  · rw [htokens]
    decide
  · intro hamount
    rw [← hamount, htokens, Text.Numeral.fits_of_lt_ten (by decide)] at hlarge
    simp at hlarge

end IconPress
