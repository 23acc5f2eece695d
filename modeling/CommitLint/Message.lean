import CommitLint.Header
import CommitLint.Text.Lines

/-!
# Messages

A message is read from any text that is not blank.  The text is trimmed and
cut into lines; the first line is the header, and the body is what follows the
first blank line below it.  A body therefore needs a blank line before it:
lines that follow the header directly belong to no body, and `crowdsHeader`
tells when there are such lines.
-/

namespace CommitLint

open Text

/-- A commit message taken apart. -/
structure Message where
  /-- The text as it was given. -/
  raw : Text
  /-- The first line. -/
  header : Text
  /-- What the first line says. -/
  parts : Header
  /-- The trimmed text after the first blank line. -/
  body : Option Text
  /-- All lines of the trimmed text. -/
  lines : List Text
  deriving DecidableEq, Repr

namespace Message

/-- Trim a text; this is what happens to every message before it is linted. -/
def normalize (t : Text) : Text := trim t

/-- The number of lines up to and including the first blank one. -/
def throughBlank? : List Text → Option Nat
  | [] => none
  | l :: ls => if blank l then some 1 else (throughBlank? ls).map (· + 1)

/-- Where the body starts: after the first blank line below the header,
provided that some later line is not blank. -/
def bodyStart? : List Text → Option Nat
  | [] => none
  | _ :: ls =>
    match throughBlank? ls with
    | none => none
    | some n => if (ls.drop n).all blank then none else some (n + 1)

/-- The line right below the header is not blank. -/
def crowdsHeader : List Text → Bool
  | _ :: l :: _ => !blank l
  | _ => false

/-- The body that lines hold. -/
def bodyOf (ls : List Text) : Option Text :=
  (bodyStart? ls).bind fun n => nonempty? (trim (unlines (ls.drop n)))

/-- Read a message; only a blank text has no reading. -/
def parse? (t : Text) : Option Message :=
  if blank t then none
  else
    let ls := Text.lines (trim t)
    let header := ls.headD []
    some ⟨t, header, Header.parse header, bodyOf ls, ls⟩

/-- A message in its usual form: the body stands below an empty line. -/
def write (header : Text) (body : Option Text) : Text :=
  match body with
  | none => header
  | some b => header ++ '\n' :: '\n' :: b

/-- What is said of a text that has no reading. -/
def emptyError : Text := "empty commit message".toList

/-! ## Small facts -/

/-- Only a blank text has no reading. -/
theorem parse?_eq_none_iff (t : Text) : parse? t = none ↔ blank t = true := by
  unfold parse?
  split <;> simp_all

/-- What reading a text that is not blank gives. -/
theorem parse?_of_not_blank {t : Text} (h : blank t = false) :
    parse? t = some ⟨t, firstLine (trim t), Header.parse (firstLine (trim t)),
      bodyOf (Text.lines (trim t)), Text.lines (trim t)⟩ := by
  simp [parse?, h, firstLine_eq]

end Message

end CommitLint
