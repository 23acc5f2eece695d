import CommitLint.Toml.Scan
import CommitLint.Value.Basic

/-!
# Values of TOML without quotes

Scanners for numbers, timestamps and truth values.  A whole number in decimal
has a limited number of digits; one with another base, and a fraction, may have
any.

A timestamp is a day, a time of day, or a day and a time of day with a `T` or a
space between them.  Seconds may be left out, and of a fraction of a second the
first six digits count.
-/

namespace CommitLint.Toml

open Text

/-- One given character. -/
def symbol (c : Char) : Text → Option Text
  | d :: s => if c = d then some s else none
  | [] => none

/-! ## Numbers -/

/-- Digits after the first one, with single underscores between digits. -/
def moreDigits (isDigit : Char → Bool) : Text → Text × Text
  | [] => ([], [])
  | c :: s =>
    if isDigit c then
      let (ds, rest) := moreDigits isDigit s
      (c :: ds, rest)
    else if c = '_' && s.head?.any isDigit then moreDigits isDigit s
    else ([], c :: s)

/-- One digit or more. -/
def digits (isDigit : Char → Bool) : Text → Scanned Text
  | [] => none
  | c :: s =>
    if isDigit c then
      let (ds, rest) := moreDigits isDigit s
      some (c :: ds, rest)
    else none

/-- The number that digits denote. -/
def numberOf (base : Nat) (ds : Text) : Nat := ofDigits base (ds.filterMap hexDigit?)

/-- A whole number with a base other than ten. -/
def basedNumber : Text → Scanned Nat
  | '0' :: 'x' :: s =>
    (digits (fun c => (hexDigit? c).isSome) s).map fun (ds, r) => (numberOf 16 ds, r)
  | '0' :: 'o' :: s =>
    (digits (fun c => '0' ≤ c && c ≤ '7') s).map fun (ds, r) => (numberOf 8 ds, r)
  | '0' :: 'b' :: s =>
    (digits (fun c => c == '0' || c == '1') s).map fun (ds, r) => (numberOf 2 ds, r)
  | _ => none

/-- A sign, if there is one. -/
def sign : Text → Bool × Text
  | '-' :: s => (true, s)
  | '+' :: s => (false, s)
  | s => (false, s)

/-- A period and the digits after it. -/
def fractionPart : Text → Scanned Text
  | '.' :: s => digits Char.isDigit s
  | _ => none

/-- An exponent. -/
def exponentPart : Text → Scanned Int
  | c :: s =>
    if c = 'e' || c = 'E' then
      let (negative, s) := sign s
      (digits Char.isDigit s).map fun (ds, rest) =>
        let n : Int := numberOf 10 ds
        (if negative then -n else n, rest)
    else none
  | [] => none

/-- The fraction with some digits before the period and some after it. -/
def fractionOf (negative : Bool) (ds places : Text) (power : Int) : Value :=
  .fraction (.ofDecimal negative (numberOf 10 (ds ++ places)) (power - places.length))

/-- A whole number in decimal, unless it has too many digits. -/
def wholeNumber (negative : Bool) (ds : Text) : Option Value :=
  let n : Int := numberOf 10 ds
  if ds.length ≤ maxDigits then some (.int (if negative then -n else n)) else none

/-- A decimal number: whole, or a fraction if it has digits after a period or
an exponent. -/
def decimalNumber (s : Text) : Scanned Value :=
  let (negative, s) := sign s
  let whole : Scanned Text :=
    match s with
    | '0' :: rest => some (['0'], rest)
    | _ => digits Char.isDigit s
  whole.bind fun (ds, rest) =>
    let (places, afterPlaces) := (fractionPart rest).getD ([], rest)
    match exponentPart afterPlaces with
    | some (power, rest) =>
      some (fractionOf negative ds places power, rest)
    | none =>
      if places.isEmpty then (wholeNumber negative ds).map fun v => (v, rest)
      else some (fractionOf negative ds places 0, afterPlaces)

/-- The words for what is no fraction. -/
def specialNumber (s : Text) : Scanned Value :=
  let (negative, rest) := sign s
  match rest with
  | 'i' :: 'n' :: 'f' :: r => some (.fraction (.infinite negative), r)
  | 'n' :: 'a' :: 'n' :: r => some (.fraction .notANumber, r)
  | _ => none

/-! ## Timestamps -/

/-- Exactly so many digits, as a number within bounds. -/
def fixedDigits (count least most : Nat) (s : Text) : Scanned Nat :=
  let ds := s.take count
  let n := numberOf 10 ds
  if ds.length = count && ds.all Char.isDigit && least ≤ n && n ≤ most then
    some (n, s.drop count)
  else none

/-- Two digits after a colon, as a number below sixty. -/
def sixtieths (s : Text) : Scanned Nat := (symbol ':' s).bind (fixedDigits 2 0 59)

/-- The first six digits of a fraction, as a number of millionths. -/
def millionths (ds : Text) : Nat := numberOf 10 ((ds ++ List.replicate 6 '0').take 6)

/-- Hours and minutes, and perhaps seconds with a fraction. -/
def timeOfDay (s : Text) : Scanned TimeOfDay :=
  (fixedDigits 2 0 23 s).bind fun (hour, s) =>
    (sixtieths s).map fun (minute, s) =>
      match sixtieths s with
      | none => (⟨hour, minute, 0, 0⟩, s)
      | some (second, s) =>
        match s with
        | '.' :: rest =>
          let ds := rest.takeWhile Char.isDigit
          if ds.isEmpty then (⟨hour, minute, second, 0⟩, s)
          else (⟨hour, minute, second, millionths ds⟩, rest.drop ds.length)
        | _ => (⟨hour, minute, second, 0⟩, s)

/-- An offset from universal time, in minutes. -/
def offset : Text → Scanned Int
  | [] => none
  | c :: s =>
    if c = 'Z' || c = 'z' then some (0, s)
    else if c = '+' || c = '-' then
      (fixedDigits 2 0 23 s).bind fun (hours, s) =>
        (sixtieths s).map fun (minutes, s) =>
          let n : Int := hours * 60 + minutes
          (if c = '-' then -n else n, s)
    else none

/-- A day that the calendar has. -/
def date (s : Text) : Scanned Date :=
  (fixedDigits 4 1 9999 s).bind fun (year, s) =>
    (symbol '-' s).bind fun s =>
      (fixedDigits 2 1 12 s).bind fun (month, s) =>
        (symbol '-' s).bind fun s =>
          (fixedDigits 2 1 (Date.daysIn year month) s).map fun (day, s) =>
            (⟨year, month, day⟩, s)

/-- The time of day behind a date, after a `T` or a space. -/
def timeBehind : Text → Scanned TimeOfDay
  | c :: s => if c = 'T' || c = 't' || c = ' ' then timeOfDay s else none
  | [] => none

/-- A day, perhaps with a time of day and an offset. -/
def dateTime (s : Text) : Scanned Timestamp :=
  (date s).map fun (d, rest) =>
    match timeBehind rest with
    | none => (.date d, rest)
    | some (t, rest) =>
      match offset rest with
      | none => (.dateTime d t none, rest)
      | some (o, rest) => (.dateTime d t (some o), rest)

/-- A timestamp of any form. -/
def timestamp (s : Text) : Scanned Timestamp :=
  (dateTime s).orElse fun _ => (timeOfDay s).map fun (t, rest) => (.time t, rest)

/-! ## All of them -/

/-- A number or a timestamp. -/
def scalar (s : Text) : Scanned Value :=
  ((timestamp s).map fun (t, r) => (.timestamp t, r)).orElse fun _ =>
    ((basedNumber s).map fun (n, r) => (.int n, r)).orElse fun _ =>
      (decimalNumber s).orElse fun _ => specialNumber s

/-- The words for truth values. -/
def boolean : Text → Scanned Bool
  | 't' :: 'r' :: 'u' :: 'e' :: s => some (true, s)
  | 'f' :: 'a' :: 'l' :: 's' :: 'e' :: s => some (false, s)
  | _ => none

end CommitLint.Toml
