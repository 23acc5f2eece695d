import CommitLint.Report.Item

/-!
# Plain text

Console objects as plain text, for an output that has no styles.  Style names
in brackets disappear from markup; other brackets stay.  The columns of a table
are as wide as their widest cell and stand two spaces apart.
-/

namespace CommitLint.Report

open Text

/-- The styles. -/
def Style.all : List Style :=
  [plain, dim, red, green, yellow, blue, magenta, cyan, boldRed, boldGreen, boldYellow,
    boldBlue]

/-- Whether what stands between brackets switches a style on or off. -/
def isTag (t : Text) : Bool :=
  let name := if t.head? = some '/' then t.drop 1 else t
  name = "bold".toList || (Style.all.any fun s => s != .plain && s.name == name)

/-- What follows an opening bracket, without the tag that the bracket begins if
it begins one. -/
def withoutTag (t : Text) : Text :=
  match t.dropWhile (· != ']') with
  | [] => '[' :: t
  | _ :: rest => if isTag (t.takeWhile (· != ']')) then rest else '[' :: t

/-- Markup without its tags. -/
def withoutTags (t : Text) : Text :=
  match pieces '[' t with
  | [] => []
  | p :: ps => p ++ ps.flatMap withoutTag

/-- The widths of the columns of a table. -/
def columnWidths (headings : List Text) (rows : List (List Text)) : List Nat :=
  rows.foldl (fun widths row => List.zipWith (fun n t => max n t.length) widths row)
    (headings.map List.length)

/-- The cells of a row in columns of given widths. -/
def rowLine (widths : List Nat) (cells : List Text) : Text :=
  trimEnd ("  ".toList.intercalate (List.zipWith fillRight widths cells))

/-- A table as lines. -/
def tableLines (headings : List Text) (rows : List (List Text)) : List Text :=
  (headings :: rows).map (rowLine (columnWidths headings rows))

/-- An object as plain text. -/
def Item.plain : Item → Text
  | markup t => withoutTags t
  | table headings rows => unlines (tableLines headings (rows.map (·.map Piece.text)))
  | panel title _ t _ => title ++ ":\n".toList ++ trimEnd t

end CommitLint.Report
