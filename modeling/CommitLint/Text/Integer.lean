import CommitLint.Text.Numeral

/-!
# Whole numbers in texts

A whole number that stands where a text is expected is read leniently.  In its
plain form it is a minus sign, if it is negative, and digits without zeros in
front.  What is not plain is reduced to that form once:

* white space around the number and a plus sign are dropped;
* zeros in front are dropped, and underscores among them;
* a period with nothing but zeros behind it is dropped;
* underscores are dropped if each stands alone between other characters.

A number in its plain form has a limited number of characters.
-/

namespace CommitLint.Text

/-- Why a text is no whole number. -/
inductive Misread where
  /-- It does not have the form of one. -/
  | malformed
  /-- It has too many digits. -/
  | tooLong
  deriving DecidableEq, Repr

/-- Read a whole number in its plain form.  A number that is too long is told
by its first characters, whatever stands behind them. -/
def readPlain (t : Text) : Except Misread Int :=
  let negative := t.head? == some '-'
  let digits := if negative then t.drop 1 else t
  let run := digits.takeWhile Char.isDigit
  if run.head? == some '0' then if digits = ['0'] then .ok 0 else .error .malformed
  else if maxDigits < run.length + (if negative then 1 else 0) then .error .tooLong
  else if run.isEmpty || run != digits then .error .malformed
  else
    let n : Int := ofDigits 10 (run.filterMap digit?)
    .ok (if negative then -n else n)

/-- White space; the separators from U+001C to U+001F are none. -/
def isWhiteSpace (c : Char) : Bool := isBlank c && !(28 ≤ c.toNat && c.toNat ≤ 31)

/-- Remove the white space at each end. -/
def trimWhiteSpace (t : Text) : Text :=
  ((t.dropWhile isWhiteSpace).reverse.dropWhile isWhiteSpace).reverse

/-- Drop a plus sign, which no minus sign may follow. -/
def dropPlus? : Text → Option Text
  | '+' :: '-' :: _ => none
  | '+' :: t => some t
  | t => some t

/-- Go on dropping zeros and underscores after a zero; `last` is what was
dropped last.  It stays if nothing follows, or a period does. -/
def dropMoreZeros? (last : Char) : Text → Option Text
  | [] => some [last]
  | c :: t =>
    if c = '0' || c = '_' then dropMoreZeros? c t
    else if c.isDigit || c = '-' then some (c :: t)
    else if c = '.' then some (last :: c :: t)
    else none

/-- Drop zeros in front.  Only a digit or a minus sign can begin a number. -/
def dropZeros? : Text → Option Text
  | [] => none
  | c :: t =>
    if c = '0' then dropMoreZeros? c t
    else if c.isDigit || c = '-' then some (c :: t)
    else none

/-- Drop a period and the zeros behind it, at least one. -/
def dropPlaces (t : Text) : Text :=
  let places := (t.dropWhile (· != '.')).drop 1
  if !places.isEmpty && places.all (· == '0') then t.takeWhile (· != '.') else t

/-- Drop underscores, unless one stands at an end or beside another one. -/
def dropUnderscores (t : Text) : Text :=
  if t.head? == some '_' || t.getLast? == some '_' || occursIn ['_', '_'] t then t
  else t.filter (· != '_')

/-- The plain form of a number, if it can have one. -/
def plainForm? (t : Text) : Option Text :=
  ((dropPlus? (trimWhiteSpace t)).bind dropZeros?).map fun t => dropUnderscores (dropPlaces t)

/-- Read a whole number. -/
def readInteger (t : Text) : Except Misread Int :=
  match readPlain t with
  | .error .malformed =>
    match plainForm? t with
    | none => .error .malformed
    | some plain => readPlain plain
  | outcome => outcome

end CommitLint.Text
