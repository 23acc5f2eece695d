import CommitLint.Text.Numeral

/-!
# Moments

A moment of the calendar clock, written for log records and for file names.
-/

namespace CommitLint

/-- A date and a time of day. -/
structure Moment where
  year : Nat
  month : Nat
  day : Nat
  hour : Nat
  minute : Nat
  second : Nat
  deriving DecidableEq, Repr

namespace Moment

open Text

/-- Year, month and day, joined by hyphens.  An early year has fewer digits. -/
def date (m : Moment) : Text :=
  decimal m.year ++ '-' :: zeroFill 2 (decimal m.month) ++
    '-' :: zeroFill 2 (decimal m.day)

/-- Hour, minute and second, joined by a separator. -/
def time (separator : Char) (m : Moment) : Text :=
  zeroFill 2 (decimal m.hour) ++ separator :: zeroFill 2 (decimal m.minute) ++
    separator :: zeroFill 2 (decimal m.second)

/-- The form for log records. -/
def stamp (m : Moment) : Text := m.date ++ ' ' :: m.time ':'

/-- The form for file names. -/
def fileStamp (m : Moment) : Text := m.date ++ '_' :: m.time '-'

end Moment

end CommitLint
