import IconPress.Text.Numeral

/-!
# Instants

The date and the time of day that an archive's name carries.
-/

namespace IconPress

/-- A date and a time of day, to the second. -/
structure Instant where
  year : Nat
  month : Nat
  day : Nat
  hour : Nat
  minute : Nat
  second : Nat
deriving DecidableEq, Repr

/-- Date and time as a stamp; the year is not filled up, every other field has two digits. -/
def Instant.stamp (instant : Instant) : String :=
  let two := Text.Numeral.twoDigits
  toString instant.year ++ "-" ++ two instant.month ++ "-" ++ two instant.day ++ "T" ++
    two instant.hour ++ ":" ++ two instant.minute ++ ":" ++ two instant.second

end IconPress
