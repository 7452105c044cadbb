/-!
# Decimal numerals of bounded length

Numbers are read from and written in decimal digits, up to a limit on the number of digits that
holds in both directions.  Leading zeros count when a numeral is read.

Main definitions:

- `Numeral.read`: the number that a run of digits denotes.
- `Numeral.fits`: whether a number may be written.
-/

namespace IconPress
namespace Text
namespace Numeral

/-- The greatest number of digits that a numeral may have. -/
def digitLimit : Nat :=
  4300

/-- The digits 0 to 9, of the ASCII range only. -/
def isDigit (c : Char) : Bool :=
  48 ≤ c.toNat && c.toNat ≤ 57

/-- A non-empty run of digits. -/
def isNumeral (text : List Char) : Bool :=
  !text.isEmpty && text.all isDigit

/-- The number that digits denote in base ten. -/
def value (digits : List Char) : Nat :=
  digits.foldl (fun n d => 10 * n + (d.toNat - 48)) 0

/-- The number that digits denote, or the count of the digits when they are too many. -/
def read (digits : List Char) : Except Nat Nat :=
  if digits.length ≤ digitLimit then
    .ok (value digits)
  else
    .error digits.length

/-- Whether a number has at most so many decimal digits. -/
def hasAtMost : Nat → Nat → Bool
  | 0, n => n == 0
  | limit + 1, n => n < 10 || hasAtMost limit (n / 10)

/-- Numbers with at most so many digits are the ones below a power of ten. -/
theorem hasAtMost_iff (limit n : Nat) : hasAtMost limit n = true ↔ n < Nat.pow 10 limit := by
  induction limit generalizing n with
  | zero =>
      have hone : Nat.pow 10 0 = 1 := rfl
      rw [hone]
      simp only [hasAtMost, beq_iff_eq]
      omega
  | succ limit ih =>
      have hpos : 0 < Nat.pow 10 limit := Nat.pow_pos (by decide)
      have hsucc : Nat.pow 10 (limit + 1) = Nat.pow 10 limit * 10 := rfl
      rw [hsucc]
      simp only [hasAtMost, Bool.or_eq_true, decide_eq_true_eq, ih]
      omega

/-- Whether the decimal form of a number stays within the limit. -/
def fits (n : Int) : Bool :=
  hasAtMost digitLimit n.natAbs

/-- The decimal form of a number, with zeros in front up to two digits. -/
def twoDigits (n : Nat) : String :=
  if n < 10 then "0" ++ toString n else toString n

end Numeral
end Text
end IconPress
