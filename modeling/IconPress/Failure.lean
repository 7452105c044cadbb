import IconPress.Files.DiskError
import IconPress.Icon.Dimension
import IconPress.Text.Numeral
import IconPress.Text.Utf8

/-!
# Failures

Everything that can end a run, as the cause and what it concerns; the wording is in one place,
`Failure.message`.  Failures of the first kinds are reported to the user under the name of their
kind.  The last ones concern numbers and names beyond what the machine accepts and have no kind.

Main definitions:

- `Failure` and `Failure.message`: the causes and their wording.
- `Failure.Kind` and `Failure.kind?`: the classes in which failures are reported.
- `Failure.showing` and `checkNumber`: numbers that are too large to be written.
-/

namespace IconPress

/-- What ended a run. -/
inductive Failure where
  /-- A dimension that has to be declared is not. -/
  | undeclared (dimension : Dimension)
  /-- A declared value is not a decimal number. -/
  | notDecimal (dimension : Dimension) (value : String)
  /-- A dimension is declared with different values, given here in ascending order. -/
  | conflicting (dimension : Dimension) (values : List Nat)
  /-- The declared size is zero. -/
  | zeroSize
  /-- Width and height differ. -/
  | notSquare (width height : Nat)
  /-- A pixel is neither of the two literals. -/
  | unknownPixel (token opaqueLiteral clearLiteral : String) (icon : Option Int)
  /-- A closing brace without its opening one. -/
  | unbalanced (line column : Nat)
  /-- An opening brace without its closing one. -/
  | unterminated
  /-- A block does not hold as many pixels as its icon needs. -/
  | pixelCount (icon : Int) (line : Int) (count : Nat) (size : Int)
  /-- The declared number of icons is not the number of blocks. -/
  | iconCount (source : String) (declared found : Nat)
  /-- A row is not as long as its icon is wide. -/
  | rowLength (icon : Int) (row count : Nat) (size : Int)
  /-- A row cannot be cut into bytes; for a row of an icon, which one it is. -/
  | rowSplit (place : Option (Int × Nat)) (count : Nat) (width : Int)
  /-- The input cannot be read. -/
  | unreadable (path : Path) (cause : DiskError)
  /-- The input is not text. -/
  | notText (path : Path) (flaw : Text.Utf8.Flaw)
  /-- Something bears the name that the previous output should get. -/
  | archiveTaken (archive : Path)
  /-- The previous output cannot be renamed. -/
  | notArchived (path : Path) (cause : DiskError)
  /-- The output cannot be written; the previous one, if any, has got another name. -/
  | notWritten (path : Path) (cause : DiskError) (archive : Option Path)
  /-- A numeral has too many digits to be read. -/
  | numeralTooLong (digits : Nat)
  /-- A number has too many digits to be written. -/
  | numberTooLarge
  /-- A path ends without a name. -/
  | noName (path : Path)
  /-- A file operation failed where no failure is expected. -/
  | disk (cause : DiskError)
deriving DecidableEq, Repr

namespace Failure

/-- The classes in which failures are reported. -/
inductive Kind where
  | malformedHeader
  | nonSquareGlyph
  | invalidPixelToken
  | malformedGlyph
  | rowPacking
  | filesystem
deriving DecidableEq, Repr

/-- The name of a class, as it is shown. -/
def Kind.name : Kind → String
  | malformedHeader => "MalformedHeaderError"
  | nonSquareGlyph => "NonSquareGlyphError"
  | invalidPixelToken => "InvalidPixelTokenError"
  | malformedGlyph => "MalformedGlyphError"
  | rowPacking => "RowPackingError"
  | filesystem => "FilesystemError"

/-- The class of a failure that is reported; the others end the program where they occur. -/
def kind? : Failure → Option Kind
  | undeclared _ | notDecimal _ _ | conflicting _ _ | zeroSize => some .malformedHeader
  | notSquare _ _ => some .nonSquareGlyph
  | unknownPixel _ _ _ _ => some .invalidPixelToken
  | unbalanced _ _ | unterminated | pixelCount _ _ _ _ | iconCount _ _ _ => some .malformedGlyph
  | rowLength _ _ _ _ | rowSplit _ _ _ => some .rowPacking
  | unreadable _ _ | notText _ _ | archiveTaken _ | notArchived _ _ | notWritten _ _ _ =>
    some .filesystem
  | numeralTooLong _ | numberTooLarge | noName _ | disk _ => none

/-- The path that a failed file operation concerns. -/
def path? : Failure → Option Path
  | unreadable path _ | notText path _ | notArchived path _ | notWritten path _ _ => some path
  | archiveTaken archive => some archive
  | _ => none

/-- The advice at the end of the messages on long numbers. -/
def limitAdvice : String :=
  "use sys.set_int_max_str_digits() to increase the limit"

/-- The start of the messages on long numbers. -/
def limitExceeded : String :=
  s!"Exceeds the limit ({Text.Numeral.digitLimit} digits) for integer string conversion"

/-- The wording of a failure. -/
def message : Failure → String
  | undeclared dimension => s!"Missing '#define *_FRAME_{dimension.name} <n>' declaration"
  | notDecimal dimension value =>
    s!"_FRAME_{dimension.name} must be a decimal number, got {Text.quote value}"
  | conflicting dimension values =>
    s!"Conflicting _FRAME_{dimension.name} declarations: " ++
      ", ".intercalate (values.map toString)
  | zeroSize => "Frame size must be positive, got 0"
  | notSquare width height => s!"Icons must be square-sized, got icons {width}x{height}"
  | unknownPixel token opaqueLiteral clearLiteral icon =>
    let place := match icon with
      | some index => s!" in icon #{index}"
      | none => ""
    s!"Invalid data byte{place}: {Text.quote token}. " ++
      s!"Should be '{opaqueLiteral}' or '{clearLiteral}'"
  | unbalanced line column => "Unbalanced '\x7d'" ++ s!" at line {line}, col {column}"
  | unterminated => "Unterminated '\x7b' block at end of input"
  | pixelCount icon line count size =>
    s!"Icon #{icon} at line {line} has {count} pixels, " ++
      s!"expected {size * size} ({size}x{size})"
  | iconCount source declared found =>
    s!"{source} declares {declared} frame(s) but contains {found} icon block(s)"
  | rowLength icon row count size =>
    s!"Icon #{icon} row {row} has {count} pixels, expected {size}"
  | rowSplit place count width =>
    let start := match place with
      | some (icon, row) => s!"Icon #{icon} row {row}: "
      | none => ""
    start ++ s!"Row of {count} pixels cannot be split into {width}-bit chunks"
  | unreadable path cause => s!"Could not read {path.text}: {cause.message}"
  | notText path flaw => s!"{path.text} is not valid UTF-8 text: {flaw.message}"
  | archiveTaken archive =>
    s!"Archive {archive.text} already exists, refusing to overwrite it"
  | notArchived path cause => s!"Could not archive {path.text}: {cause.message}"
  | notWritten path cause archive =>
    let note := match archive with
      | some kept => s!"; previous output kept at {kept.text}"
      | none => ""
    s!"Could not write {path.text}: {cause.message}" ++ note
  | numeralTooLong digits => s!"{limitExceeded}: value has {digits} digits; {limitAdvice}"
  | numberTooLarge => s!"{limitExceeded}; {limitAdvice}"
  | noName path => s!"PosixPath({path.quoted}) has an empty name"
  | disk cause => cause.message

/-- The failure whose message shows some numbers, or that one of them is too large to be shown. -/
def showing (numbers : List Int) (failure : Failure) : Failure :=
  if numbers.all Text.Numeral.fits then failure else .numberTooLarge

theorem showing_of_fits {numbers : List Int} {failure : Failure}
    (h : ∀ number ∈ numbers, Text.Numeral.fits number = true) :
    failure.showing numbers = failure :=
  if_pos (List.all_eq_true.2 h)

theorem showing_of_not_fits {numbers : List Int} {number : Int} {failure : Failure}
    (hshown : number ∈ numbers) (h : Text.Numeral.fits number = false) :
    failure.showing numbers = .numberTooLarge := by
  refine if_neg fun hall => ?_
  rw [List.all_eq_true.1 hall number hshown] at h
  simp at h

end Failure

/-- A number that is about to be written must not be too large. -/
def checkNumber (number : Int) : Except Failure Unit :=
  if Text.Numeral.fits number then .ok () else .error .numberTooLarge

theorem checkNumber_eq_ok_iff {number : Int} :
    checkNumber number = .ok () ↔ Text.Numeral.fits number = true := by
  cases h : Text.Numeral.fits number <;> simp [checkNumber, h]

theorem checkNumber_eq_error_iff {number : Int} {failure : Failure} :
    checkNumber number = .error failure ↔
      Text.Numeral.fits number = false ∧ failure = .numberTooLarge := by
  cases h : Text.Numeral.fits number <;> simp [checkNumber, h, eq_comm]

end IconPress
