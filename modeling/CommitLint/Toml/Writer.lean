import CommitLint.Toml.Scan
import CommitLint.Value.Basic

/-!
# Writing TOML

A table of truth values and texts is written as a header and one line per
entry.  Texts are written in double quotes.  Inside, the quote and the
backslash get a backslash; backspace, line feed, form feed and carriage return
have short escapes, every other control but the tab is written by its number,
and all other characters stay.
-/

namespace CommitLint.Toml

open Text

/-- A value that can be written. -/
inductive Scalar where
  | bool (b : Bool)
  | text (t : Text)
  deriving DecidableEq, Repr

/-- The value that a scalar is. -/
def Scalar.toValue : Scalar → Value
  | bool b => .bool b
  | text t => .text t

/-- A backslash before a character. -/
def slashed (c : Char) : Text := ['\x5c', c]

/-- One character inside double quotes. -/
def escapeChar (c : Char) : Text :=
  if c = '\x22' || c = '\x5c' then slashed c
  else if c = '\x08' then slashed 'b'
  else if c = '\n' then slashed 'n'
  else if c = '\x0c' then slashed 'f'
  else if c = '\r' then slashed 'r'
  else if isForbidden c then slashed 'u' ++ hex 4 c.toNat
  else [c]

/-- A text in double quotes. -/
def writeText (t : Text) : Text := '\x22' :: t.flatMap escapeChar ++ ['\x22']

/-- A scalar. -/
def Scalar.write : Scalar → Text
  | bool b => (if b then "true" else "false").toList
  | text t => writeText t

/-- The line of an entry. -/
def writeEntry (e : Text × Scalar) : Text := e.1 ++ " = ".toList ++ e.2.write ++ ['\n']

/-- The line of a table's header. -/
def writeHeader (name : Text) : Text := '[' :: name ++ "]\n".toList

/-- A table under its header. -/
def writeTable (name : Text) (entries : List (Text × Scalar)) : Text :=
  writeHeader name ++ entries.flatMap writeEntry

end CommitLint.Toml
