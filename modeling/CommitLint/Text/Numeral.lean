import CommitLint.Text.Blank

/-!
# Numerals

Natural numbers and integers in decimal, with an optional least width that is
filled with zeros, and code points in lower-case hexadecimal.

Whole numbers have any size, but a decimal form with too many digits is neither
read nor written where it comes from outside.
-/

namespace CommitLint.Text

/-- The decimal digits of a natural number, without leading zeros. -/
def decimal (n : Nat) : Text := Nat.toDigits 10 n

/-- The decimal form of an integer, with a minus sign when it is negative. -/
def decimalInt : Int → Text
  | .ofNat n => decimal n
  | .negSucc n => '-' :: decimal (n + 1)

/-- The most decimal digits of a number that comes from outside. -/
def maxDigits : Nat := 4300

/-- Fill with zeros on the left up to a least width. -/
def zeroFill (width : Nat) (t : Text) : Text :=
  List.replicate (width - t.length) '0' ++ t

/-- Fill with spaces on the right up to a least width. -/
def fillRight (width : Nat) (t : Text) : Text :=
  t ++ List.replicate (width - t.length) ' '

/-- Lower-case hexadecimal digits, at least `width` of them. -/
def hex (width n : Nat) : Text := zeroFill width (Nat.toDigits 16 n)

/-- The value of a decimal digit. -/
def digit? (c : Char) : Option Nat :=
  if c.isDigit then some (c.toNat - '0'.toNat) else none

/-- The value of a hexadecimal digit of either case. -/
def hexDigit? (c : Char) : Option Nat :=
  if c.isDigit then some (c.toNat - '0'.toNat)
  else if 'a' ≤ c && c ≤ 'f' then some (c.toNat - 'a'.toNat + 10)
  else if 'A' ≤ c && c ≤ 'F' then some (c.toNat - 'A'.toNat + 10)
  else none

/-- The number that digits of a base denote, most significant first. -/
def ofDigits (base : Nat) (ds : List Nat) : Nat :=
  ds.foldl (fun n d => n * base + d) 0

end CommitLint.Text
