/-!
# Blank characters

Blank space in the wide sense: the ASCII controls that move the cursor, the information
separators, and the space characters of other scripts.  Trimming and squeezing use it.

Main definitions:

- `isBlank`: the set itself.
- `trim`: a text without blanks at its ends.
- `squeeze`: a text without any blanks.
-/

namespace IconPress
namespace Text

/-- Blank characters: line ends, tabs, separators and spaces of any width. -/
def isBlank (c : Char) : Bool :=
  let n := c.toNat
  (9 ≤ n && n ≤ 13) || (28 ≤ n && n ≤ 32) || n == 0x85 || n == 0xa0 || n == 0x1680 ||
    (0x2000 ≤ n && n ≤ 0x200a) || n == 0x2028 || n == 0x2029 || n == 0x202f ||
    n == 0x205f || n == 0x3000

/-- The text without the blanks at its end. -/
def trimEnd (text : List Char) : List Char :=
  (text.reverse.dropWhile isBlank).reverse

/-- The text without the blanks at either end. -/
def trim (text : List Char) : List Char :=
  trimEnd (text.dropWhile isBlank)

/-- The text without any blank. -/
def squeeze (text : List Char) : List Char :=
  text.filter fun c => !isBlank c

@[simp]
theorem squeeze_append (front back : List Char) :
    squeeze (front ++ back) = squeeze front ++ squeeze back := by
  simp [squeeze]

theorem mem_squeeze {c : Char} {text : List Char} :
    c ∈ squeeze text ↔ c ∈ text ∧ isBlank c = false := by
  simp [squeeze]

/-- A text without blanks is what is left of it. -/
theorem squeeze_eq_self {text : List Char} (h : ∀ c ∈ text, isBlank c = false) :
    squeeze text = text := by
  simpa [squeeze] using h

/-- Parts that are put together lose their own blanks and the ones between them. -/
theorem squeeze_intercalate (separator : List Char) (parts : List (List Char)) :
    squeeze (separator.intercalate parts) =
      (squeeze separator).intercalate (parts.map squeeze) := by
  induction parts with
  | nil => simp [List.intercalate, squeeze]
  | cons part rest ih =>
      cases rest with
      | nil => simp [List.intercalate]
      | cons next others =>
          simp only [List.intercalate, List.map_cons, List.intersperse_cons_cons,
            List.flatten_cons, squeeze_append] at ih ⊢
          rw [ih]

/-- Squeezing again changes nothing. -/
@[simp]
theorem squeeze_squeeze (text : List Char) : squeeze (squeeze text) = squeeze text :=
  squeeze_eq_self fun _ hc => (mem_squeeze.1 hc).2

end Text
end IconPress
