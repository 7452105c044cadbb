import IconPress.Text.Printable

/-!
# Quoted texts

How messages quote a text: between single quotes, or between double quotes when it holds a single
quote and no double one.  The quote in use and the backslash are escaped, line feed, carriage
return and tab have letters of their own, and every other character that is not printable is
written by its code point in hexadecimal.
-/

namespace IconPress
namespace Text

/-- The lower-case hexadecimal digits of a number, filled with zeros to a width. -/
def hexDigits (width : Nat) (n : Nat) : List Char :=
  let digits := Nat.toDigits 16 n
  List.replicate (width - digits.length) '0' ++ digits

/-- The shortest of the three code point escapes that fits. -/
def escapePoint (n : Nat) : List Char :=
  if n < 0x100 then
    '\\' :: 'x' :: hexDigits 2 n
  else if n < 0x10000 then
    '\\' :: 'u' :: hexDigits 4 n
  else
    '\\' :: 'U' :: hexDigits 8 n

/-- One character inside a quotation. -/
def quoteChar (mark : Char) (c : Char) : List Char :=
  if c = mark || c = '\\' then
    ['\\', c]
  else if c = '\n' then
    ['\\', 'n']
  else if c = '\r' then
    ['\\', 'r']
  else if c = '\t' then
    ['\\', 't']
  else if isPrintable c then
    [c]
  else
    escapePoint c.toNat

/-- The mark around a quotation: a double quote only when that saves escaping a single one. -/
def quoteMark (text : List Char) : Char :=
  if text.contains '\'' && !text.contains '"' then '"' else '\''

/-- The quotation of a text. -/
def quote (text : String) : String :=
  let mark := quoteMark text.toList
  String.ofList (mark :: text.toList.flatMap (quoteChar mark) ++ [mark])

end Text
end IconPress
