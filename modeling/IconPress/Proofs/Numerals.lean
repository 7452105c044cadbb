import IconPress.Text.Numeral
import Mathlib.Data.List.Induction
import Mathlib.Tactic.NormNum.Basic

/-!
# Numerals and their limits

The decimal form of a number denotes the number, and the number of its digits is bounded by powers
of ten.

Main results:

- `Numeral.value_repr`: the decimal form of a number denotes it.
- `Numeral.length_repr_le`: it is short if the number is not too large.
- `Numeral.value_lt`: what a numeral denotes is bounded by its length.
- `Numeral.fits_of_lt` and `Numeral.fits_mul_self`: numbers that may be written, and half of the
  digits for those whose squares may.
-/

namespace IconPress
namespace Text
namespace Numeral

/-! ## Reading what is written -/

/-- The decimal form of a number is a numeral. -/
theorem isNumeral_repr (n : Nat) : isNumeral n.repr.toList = true := by
  rw [Nat.toList_repr, isNumeral, Bool.and_eq_true, List.all_eq_true]
  refine ⟨by simp [Nat.toDigits_ne_nil], ?_⟩
  intro c hc
  have hdigit := Nat.isDigit_of_mem_toDigits (by decide) (by decide) hc
  simp only [Char.isDigit, ge_iff_le, Bool.and_eq_true, decide_eq_true_eq, UInt32.le_iff_toNat_le]
    at hdigit
  simpa [isDigit] using hdigit

/-- A numeral holds digits only. -/
theorem isDigit_of_isNumeral {value : List Char} (h : isNumeral value = true) :
    ∀ c ∈ value, isDigit c = true := by
  simp only [isNumeral, Bool.and_eq_true, List.all_eq_true] at h
  exact h.2

theorem not_mem_of_isNumeral {c : Char} {value : List Char} (hc : isDigit c = false)
    (h : isNumeral value = true) : c ∉ value := by
  intro hmem
  rw [isDigit_of_isNumeral h c hmem] at hc
  simp at hc

/-- No digit is a letter or a line feed. -/
theorem not_mem_repr {c : Char} (hc : isDigit c = false) (n : Nat) : c ∉ n.repr.toList :=
  not_mem_of_isNumeral hc (isNumeral_repr n)

/-- The decimal form of a number denotes it. -/
@[simp]
theorem value_repr (n : Nat) : value n.repr.toList = n := by
  have hdigits := @Nat.ofDigitChars_toDigits 10 n (by decide) (by decide)
  rwa [← Nat.toList_repr] at hdigits

/-- Zeros in front do not change what a numeral denotes. -/
@[simp]
theorem value_twoDigits (n : Nat) : value (twoDigits n).toList = n := by
  unfold twoDigits
  split
  · rw [String.toList_append]
    exact value_repr n
  · exact value_repr n

/-- The digits of a number tell which one it is. -/
theorem toList_repr_injective : Function.Injective fun n : Nat => n.repr.toList :=
  Function.LeftInverse.injective value_repr

theorem toList_twoDigits_injective : Function.Injective fun n => (twoDigits n).toList :=
  Function.LeftInverse.injective value_twoDigits

/-- With zeros in front as well, a number is written in digits. -/
theorem not_mem_twoDigits {c : Char} (hc : isDigit c = false) (n : Nat) :
    c ∉ (twoDigits n).toList := by
  have hzero : c ∉ "0".toList := not_mem_of_isNumeral hc (by decide)
  unfold twoDigits
  split
  · rw [String.toList_append, List.mem_append, not_or]
    exact ⟨hzero, not_mem_repr hc n⟩
  · exact not_mem_repr hc n

/-- The decimal form of an integer may begin with a sign, and other than that it holds digits. -/
theorem not_mem_repr_int {c : Char} (hc : isDigit c = false) (hsign : c ≠ '-') (n : Int) :
    c ∉ n.repr.toList := by
  rw [Int.repr_eq_if]
  split
  · exact not_mem_repr hc _
  · rw [String.toList_append, List.mem_append, not_or]
    exact ⟨by simpa using hsign, not_mem_repr hc _⟩

/-- The decimal form of an integer tells which one it is. -/
theorem repr_int_injective : Function.Injective Int.repr := by
  have hnatural : ∀ {m n : Nat}, m.repr = n.repr → m = n := fun heq =>
    toList_repr_injective (congrArg String.toList heq)
  have hsign : ∀ {m n : Nat}, m.repr ≠ "-" ++ n.repr := by
    intro m n heq
    have hminus : '-' ∈ m.repr.toList := by
      rw [heq, String.toList_append]
      exact List.mem_append_left _ (by decide)
    exact not_mem_repr (by decide) m hminus
  intro m n heq
  rw [Int.repr_eq_if, Int.repr_eq_if] at heq
  split at heq
  · split at heq
    · have hsame := hnatural heq
      omega
    · exact absurd heq hsign
  · split at heq
    · exact absurd heq.symm hsign
    · have hsame := hnatural (String.append_right_inj _ |>.1 heq)
      omega

/-- The number of digits of a number below a power of ten. -/
theorem length_repr_le {n limit : Nat} (hlimit : 0 < limit) (h : n < 10 ^ limit) :
    n.repr.toList.length ≤ limit := by
  rw [Nat.toList_repr]
  exact (Nat.length_toDigits_le_iff (by decide) hlimit).2 h

/-- What digits denote is below the power of ten with as many zeros. -/
theorem value_lt {digits : List Char} (h : ∀ c ∈ digits, isDigit c = true) :
    value digits < 10 ^ digits.length := by
  induction digits using List.reverseRecOn with
  | nil => decide
  | append_singleton front last ih =>
      have hfront := ih fun c hc => h c (List.mem_append_left _ hc)
      have hlast := h last (by simp)
      simp only [isDigit, Bool.and_eq_true, decide_eq_true_eq] at hlast
      have hstep : value (front ++ [last]) = 10 * value front + (last.toNat - 48) := by
        simp [value]
      rw [hstep, List.length_append, List.length_singleton, Nat.pow_succ]
      omega

/-! ## Writing -/

/-- A number may be written when it is below a power of ten. -/
theorem fits_iff {n : Int} : fits n = true ↔ n.natAbs < 10 ^ digitLimit := by
  unfold fits
  generalize digitLimit = limit
  exact hasAtMost_iff limit n.natAbs

theorem fits_eq_false_iff {n : Int} : fits n = false ↔ 10 ^ digitLimit ≤ n.natAbs := by
  rw [Bool.eq_false_iff, ne_eq, fits_iff, Nat.not_lt]

/-- A number with one digit may be written. -/
theorem fits_of_lt_ten {n : Int} (h : n.natAbs < 10) : fits n = true := by
  have hdigit : ∀ limit, hasAtMost (limit + 1) n.natAbs = true := fun limit => by
    simp [hasAtMost, h]
  exact hdigit 4299

theorem natAbs_lt_pow {n : Int} {limit : Nat} (hlow : 0 ≤ n) (h : n < 10 ^ limit) :
    n.natAbs < 10 ^ limit := by
  have hsame : (n.natAbs : Int) = n := Int.natAbs_of_nonneg hlow
  rw [← hsame] at h
  exact_mod_cast h

/-- A number may be written when it is below a power of ten that is not too large. -/
theorem fits_of_lt {n : Int} {limit : Nat} (hlimit : limit ≤ digitLimit) (hlow : 0 ≤ n)
    (h : n < 10 ^ limit) : fits n = true := by
  rw [fits_iff]
  exact Nat.lt_of_lt_of_le (natAbs_lt_pow hlow h) (Nat.pow_le_pow_right (by decide) hlimit)

/-- Half of the digits are enough for the square of a number. -/
theorem fits_mul_self {n : Int} {half : Nat} (hhalf : half + half ≤ digitLimit) (hlow : 0 ≤ n)
    (h : n < 10 ^ half) : fits (n * n) = true := by
  have hnatural := natAbs_lt_pow hlow h
  rw [fits_iff, Int.natAbs_mul]
  calc
    n.natAbs * n.natAbs < 10 ^ half * 10 ^ half := Nat.mul_lt_mul'' hnatural hnatural
    _ = 10 ^ (half + half) := (Nat.pow_add 10 half half).symm
    _ ≤ 10 ^ digitLimit := Nat.pow_le_pow_right (by decide) hhalf

end Numeral
end Text
end IconPress
