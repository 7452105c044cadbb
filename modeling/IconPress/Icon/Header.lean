import IconPress.Text.Blank
import IconPress.Text.Pieces
import IconPress.Text.Word
import IconPress.Traced

/-!
# The header of a sheet

A sheet declares its dimensions line by line, as in `#define NAME_FRAME_WIDTH 5`.  Only the end of
the name matters.  The value is what follows on the line, without a comment and without blanks at
its ends.  A dimension may be declared repeatedly, as long as the numbers agree.

Main definitions:

- `Declaration.ofLine?`: the declaration that a line makes.
- `declaredValues`: the values given for a dimension, in order.
- `scanSize`: the size of the icons, which have to be square.
- `scanCount`: the number of icons, where it is declared.
-/

namespace IconPress

/-- The space that may stand between the words of a line. -/
def isGap (c : Char) : Bool :=
  c = ' ' || c = '\t'

/-- What follows a word, if the text begins with it. -/
def afterWord? (word : String) (text : List Char) : Option (List Char) :=
  if word.toList.isPrefixOf text then some (text.drop word.length) else none

/-- What stands before the first comment. -/
def uncommented : List Char → List Char
  | [] => []
  | '/' :: '/' :: _ => []
  | '/' :: '*' :: _ => []
  | c :: rest => c :: uncommented rest

/-- A declared name with its value. -/
structure Declaration where
  name : List Char
  value : List Char
deriving DecidableEq, Repr

namespace Declaration

/-- The declaration that a line makes. -/
def ofLine? (line : List Char) : Option Declaration := do
  let afterHash ← afterWord? "#" (line.dropWhile isGap)
  let afterDefine ← afterWord? "define" (afterHash.dropWhile isGap)
  let named := afterDefine.dropWhile isGap
  if named.length < afterDefine.length then
    let rest := (named.dropWhile Text.isWordChar).dropWhile isGap
    some ⟨named.takeWhile Text.isWordChar, Text.trim (uncommented rest)⟩
  else
    none

/-- The end of the names that declare a dimension. -/
def nameEnd (dimension : Dimension) : List Char :=
  ("_FRAME_" ++ dimension.name).toList

/-- Whether a declaration is about a dimension. -/
def declares (declaration : Declaration) (dimension : Dimension) : Bool :=
  (nameEnd dimension).isSuffixOf declaration.name

end Declaration

/-- The values declared for a dimension, in order. -/
def declaredValues (dimension : Dimension) (text : List Char) : List (List Char) :=
  ((Text.lines text).filterMap Declaration.ofLine?).filterMap fun declaration =>
    if declaration.declares dimension then some declaration.value else none

/-- The number that a declared value denotes. -/
def readValue (dimension : Dimension) (value : List Char) : Except Failure Nat :=
  if Text.Numeral.isNumeral value then
    match Text.Numeral.read value with
    | .ok number => .ok number
    | .error digits => .error (.numeralTooLong digits)
  else
    .error (.notDecimal dimension (String.ofList value))

/-- A number put into its place among ascending numbers, unless it is there. -/
def insertAscending (number : Nat) : List Nat → List Nat
  | [] => [number]
  | least :: rest =>
    if number < least then number :: least :: rest
    else if number = least then least :: rest
    else least :: insertAscending number rest

/-- The numbers of a list, ascending and each once. -/
def ascending (numbers : List Nat) : List Nat :=
  numbers.foldr insertAscending []

/-- The number declared for a dimension, if any; all declarations have to agree. -/
def scanDimension (dimension : Dimension) (text : List Char) : Except Failure (Option Nat) := do
  let numbers ← (declaredValues dimension text).mapM (readValue dimension)
  match ascending numbers with
  | [] => .ok none
  | [number] => .ok (some number)
  | values => .error (.conflicting dimension values)

/-- The number declared for a dimension that has to be declared. -/
def requireDimension (dimension : Dimension) (text : List Char) : Except Failure Nat := do
  match ← scanDimension dimension text with
  | some number => .ok number
  | none => .error (.undeclared dimension)

/-- The declared size of the icons: the width, which has to equal the height and not be zero. -/
def declaredSize (text : List Char) : Except Failure Nat := do
  let width ← requireDimension .width text
  let height ← requireDimension .height text
  if width ≠ height then
    .error (.notSquare width height)
  else if width = 0 then
    .error .zeroSize
  else
    .ok width

/-- The declared size of the icons, noted when it is good. -/
def scanSize (text : String) : Traced Nat := do
  let size ← Traced.quiet (declaredSize text.toList)
  Traced.note .debug .header s!"Header declares {size}x{size} frames"
  return size

/-- The declared number of icons, if there is one. -/
def scanCount (text : String) : Except Failure (Option Nat) :=
  scanDimension .count text.toList

end IconPress
