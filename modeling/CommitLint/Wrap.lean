import CommitLint.Text.Lines

/-!
# Wrapping

The words of a text are laid out again in lines, greedily: a line takes the
next word, after one space, as long as it stays within the width, and a new
line begins with the first word that does not fit.  A word that is longer than
the width has a line of its own.  The width is any integer; with a width of
zero or less every word has its own line.

A layout is a way to divide words into lines that fit.  Greedy lines are tight:
the first word of a line never fits on the line before.
-/

namespace CommitLint.Wrap

open Text

/-- Lay out words after a line that has been begun. -/
def fillFrom (width : Int) (line : Text) : List Text → List Text
  | [] => [line]
  | w :: ws =>
    let longer := line ++ ' ' :: w
    if (longer.length : Int) ≤ width then fillFrom width longer ws
    else line :: fillFrom width w ws

/-- Lay out words in lines. -/
def fill (width : Int) : List Text → List Text
  | [] => []
  | w :: ws => fillFrom width w ws

/-- The lines of a text after wrapping. -/
def wrappedLines (width : Int) (t : Text) : List Text := fill width (words t)

/-- Wrap a text to a width. -/
def wrap (width : Int) (t : Text) : Text := unlines (wrappedLines width t)

/-! ## Layouts -/

/-- Words on one line. -/
def joined (ws : List Text) : Text := [' '].intercalate ws

/-- Words fit on a line if they stay within the width or are but one word. -/
def Fits (width : Int) (ws : List Text) : Prop :=
  ws.length = 1 ∨ ((joined ws).length : Int) ≤ width

/-- A division of words, in order, into lines that are not empty and fit. -/
structure Layout (width : Int) (ws : List Text) (ls : List (List Text)) : Prop where
  flatten : ls.flatten = ws
  nonempty : [] ∉ ls
  fits : ∀ l ∈ ls, Fits width l

/-- The first word of a line would not stay within the width on the line
before. -/
def Tight (width : Int) : List (List Text) → Prop
  | [] => True
  | [_] => True
  | l :: m :: ls =>
    (∀ w ∈ m.head?, width < ((joined (l ++ [w])).length : Int)) ∧ Tight width (m :: ls)

end CommitLint.Wrap
