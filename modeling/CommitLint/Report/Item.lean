import CommitLint.Text.Lines
import CommitLint.Text.Numeral

/-!
# What is shown on the console

The console is given objects and lays them out itself: a line with markup, a
table of styled cells, or a panel around styled text.  Text in tables and
panels is shown without the controls that would move the cursor: bell,
backspace, vertical tab, form feed and carriage return.

A panel's text is put together from pieces.  Each piece with a style covers a
span of the text, and the spans come in the order of the pieces.
-/

namespace CommitLint.Report

/-- How text looks. -/
inductive Style where
  | plain | dim | red | green | yellow | blue | magenta | cyan
  | boldRed | boldGreen | boldYellow | boldBlue
  deriving DecidableEq, Repr

/-- The console's word for a style. -/
def Style.name : Style → Text
  | plain => []
  | dim => "dim".toList
  | red => "red".toList
  | green => "green".toList
  | yellow => "yellow".toList
  | blue => "blue".toList
  | magenta => "magenta".toList
  | cyan => "cyan".toList
  | boldRed => "bold red".toList
  | boldGreen => "bold green".toList
  | boldYellow => "bold yellow".toList
  | boldBlue => "bold blue".toList

/-- Text of one style. -/
structure Piece where
  text : Text
  style : Style
  deriving DecidableEq, Repr

/-- A part of a text that has a style. -/
structure Span where
  start : Nat
  stop : Nat
  style : Style
  deriving DecidableEq, Repr

/-- One object on the console. -/
inductive Item where
  /-- A line whose markup the console reads. -/
  | markup (text : Text)
  /-- A table with its column headings. -/
  | table (headings : List Text) (rows : List (List Piece))
  /-- A panel with a title and a border. -/
  | panel (title : Text) (border : Style) (text : Text) (spans : List Span)
  deriving DecidableEq, Repr

/-- A control that would move the cursor. -/
def movesCursor (c : Char) : Bool :=
  c == '\x07' || c == '\x08' || c == '\x0b' || c == '\x0c' || c == '\x0d'

/-- Text as it is shown. -/
def visible (t : Text) : Text := t.filter fun c => !movesCursor c

/-- The spans of pieces that begin at a position. -/
def spansFrom : Nat → List Piece → List Span
  | _, [] => []
  | n, p :: ps =>
    let stop := n + (visible p.text).length
    if p.style = .plain || p.text.isEmpty then spansFrom stop ps
    else ⟨n, stop, p.style⟩ :: spansFrom stop ps

/-- A panel around pieces. -/
def panelOf (title : Text) (border : Style) (pieces : List Piece) : Item :=
  .panel title border (pieces.flatMap fun p => visible p.text) (spansFrom 0 pieces)

/-- A cell of a table. -/
def cell (t : Text) (style : Style) : Piece := ⟨visible t, style⟩

/-- A line in one color, which the markup names at both ends. -/
def colored (style : Style) (t : Text) : Item :=
  .markup ('[' :: style.name ++ ']' :: t ++ "[/".toList ++ style.name ++ [']'])

end CommitLint.Report
