import CommitLint.Double.Shortest
import CommitLint.Text.Quoted
import CommitLint.Value.Basic

/-!
# Showing values

Values as they appear inside a message: texts as they are at the top and
quoted inside lists and tables, lists in brackets, tables in braces, timestamps
as the calls that make them, and fractions by their shortest decimals.

A fraction is written positionally when its first digit lies between the
ten-thousandths and the sixteenth place before the point, and else with a power
of ten.  A whole number with too many digits cannot be shown, nor can a value
that holds one.
-/

namespace CommitLint

open Text

namespace Double

/-- Digits without the zeros at their end, and how many zeros there were. -/
def stripZeros (digits : Text) : Text × Nat :=
  let kept := (digits.reverse.dropWhile (· == '0')).reverse
  (kept, digits.length - kept.length)

/-- Digits with the decimal point after the first `n` of them. -/
def positional (digits : Text) (n : Int) : Text :=
  match n with
  | .ofNat n =>
    if digits.length ≤ n then
      digits ++ List.replicate (n - digits.length) '0' ++ ".0".toList
    else if n = 0 then "0.".toList ++ digits
    else digits.take n ++ '.' :: digits.drop n
  | .negSucc n => "0.".toList ++ List.replicate (n + 1) '0' ++ digits

/-- Digits with one before the decimal point, and a power of ten. -/
def scientific (digits : Text) (exponent : Int) : Text :=
  let mantissa :=
    match digits with
    | d :: e :: ds => d :: '.' :: e :: ds
    | ds => ds
  mantissa ++ 'e' :: (if exponent < 0 then '-' else '+') ::
    zeroFill 2 (decimal exponent.natAbs)

/-- A decimal in words. -/
def displayDecimal (coefficient : Nat) (exponent : Int) : Text :=
  let (digits, zeros) := stripZeros (decimal coefficient)
  let point := (digits.length : Int) + zeros + exponent
  if -4 < point && point ≤ 16 then positional digits point
  else scientific digits (point - 1)

/-- A number in words. -/
def display : Double → Text
  | finite negative m e =>
    (if negative then ['-'] else []) ++
      if m = 0 then "0.0".toList
      else
        let (coefficient, exponent) := shortest m e
        displayDecimal coefficient exponent
  | infinite negative => (if negative then "-inf" else "inf").toList
  | notANumber => "nan".toList

end Double

/-- Texts in parentheses behind a name. -/
def displayCall (name : String) (arguments : List Text) : Text :=
  name.toList ++ '(' :: ", ".toList.intercalate arguments ++ [')']

namespace Timestamp

/-- The parts of a day. -/
def dateArguments (d : Date) : List Text := [d.year, d.month, d.day].map decimal

/-- The parts of a time of day.  What is zero at the end is left out, down to
the minutes. -/
def timeArguments (t : TimeOfDay) : List Text :=
  let parts :=
    if t.microsecond != 0 then [t.hour, t.minute, t.second, t.microsecond]
    else if t.second != 0 then [t.hour, t.minute, t.second]
    else [t.hour, t.minute]
  parts.map decimal

/-- An offset: days, if it is behind universal time, and seconds. -/
def displayOffset (minutes : Int) : Text :=
  if minutes = 0 then "datetime.timezone.utc".toList
  else
    let seconds := "seconds=".toList ++ decimalInt (minutes.emod 1440 * 60)
    displayCall "datetime.timezone"
      [displayCall "datetime.timedelta"
        (if minutes < 0 then ["days=-1".toList, seconds] else [seconds])]

/-- A timestamp in words. -/
def display : Timestamp → Text
  | date d => displayCall "datetime.date" (dateArguments d)
  | time t => displayCall "datetime.time" (timeArguments t)
  | dateTime d t offset =>
    displayCall "datetime.datetime"
      (dateArguments d ++ timeArguments t ++
        (offset.map fun o => "tzinfo=".toList ++ displayOffset o).toList)

end Timestamp

namespace Value

/-- A whole number, unless it has too many digits. -/
def displayInt? (n : Int) : Option Text :=
  if n.natAbs < Nat.pow 10 maxDigits then some (decimalInt n) else none

mutual

/-- A value inside another one. -/
def displayInner? : Value → Option Text
  | null => some "None".toList
  | bool b => some (if b then "True" else "False").toList
  | int n => displayInt? n
  | fraction x => some x.display
  | text t => some (quoted t)
  | timestamp t => some t.display
  | list items =>
    (displayItems? items).map fun ts => '[' :: ", ".toList.intercalate ts ++ [']']
  | table entries =>
    (displayEntries? entries).map fun ts => '\x7b' :: ", ".toList.intercalate ts ++ ['\x7d']

/-- The items of a list. -/
def displayItems? : List Value → Option (List Text)
  | [] => some []
  | v :: vs => (displayInner? v).bind fun t => (displayItems? vs).map (t :: ·)

/-- The entries of a table. -/
def displayEntries? : List (Text × Value) → Option (List Text)
  | [] => some []
  | (k, v) :: es =>
    (displayInner? v).bind fun t =>
      (displayEntries? es).map ((quoted k ++ ": ".toList ++ t) :: ·)

end

/-- A value on its own: a text is shown as it is. -/
def display? : Value → Option Text
  | text t => some t
  | v => displayInner? v

end Value

end CommitLint
