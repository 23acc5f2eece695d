import CommitLint.Text.PrintableTable
import CommitLint.Text.Case
import CommitLint.Text.Numeral

/-!
# Quoted text

Values that a message quotes back are written between single quotes, or
between double quotes when the value holds a single quote and no double one.
Inside, the quote and the backslash are escaped by a backslash; tab, line feed
and carriage return are written `\t`, `\n` and `\r`; every other character
that is not printable is written as `\x`, `\u` or `\U` and two, four or eight
hexadecimal digits, the shortest form that fits.
-/

namespace CommitLint.Text

/-- The single quotation mark. -/
def singleQuote : Char := '\x27'

/-- The double quotation mark. -/
def doubleQuote : Char := '\x22'

/-- The backslash. -/
def backslash : Char := '\x5c'

/-- Characters that are shown as they are. -/
def isPrintable (c : Char) : Bool :=
  if c.toNat < 128 then 32 ≤ c.toNat && c.toNat ≤ 126
  else inRanges printableRanges c.toNat

/-- A code point by its number, in the shortest form that fits. -/
def numbered (n : Nat) : Text :=
  if n < 0x100 then backslash :: 'x' :: hex 2 n
  else if n < 0x10000 then backslash :: 'u' :: hex 4 n
  else backslash :: 'U' :: hex 8 n

/-- One character inside quotes. -/
def escape (quote c : Char) : Text :=
  if c = quote || c = backslash then [backslash, c]
  else if c = '\t' then [backslash, 't']
  else if c = '\n' then [backslash, 'n']
  else if c = '\r' then [backslash, 'r']
  else if isPrintable c then [c]
  else numbered c.toNat

/-- The mark that needs fewer escapes, with a preference for the single one. -/
def quoteFor (t : Text) : Char :=
  if t.contains singleQuote && !t.contains doubleQuote then doubleQuote
  else singleQuote

/-- The text between quotes. -/
def quoted (t : Text) : Text :=
  let q := quoteFor t
  q :: t.flatMap (escape q) ++ [q]

end CommitLint.Text
