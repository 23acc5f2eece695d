import CommitLint.Lint
import CommitLint.Report.Item

/-!
# Showing issues, choices and results

The issues of a message appear as a table, one row per issue in order, or as
a line of praise when there are none.
-/

namespace CommitLint.Report

/-- The cell for a severity. -/
def severityCell : Severity → Piece
  | .error => ⟨"ERROR".toList, .boldRed⟩
  | .warning => ⟨"WARNING".toList, .boldYellow⟩

/-- The cell that tells what can be done about an issue. -/
def fixCell (i : Issue) : Piece :=
  match i.fix with
  | none => ⟨"-".toList, .dim⟩
  | some f =>
    match f.choiceKind? with
    | none => ⟨f.kindName, .cyan⟩
    | some kind => ⟨"choose ".toList ++ kind.name, .magenta⟩

/-- The row of the issue at a position. -/
def issueRow (index : Nat) (i : Issue) : List Piece :=
  [⟨Text.decimal index, .plain⟩, severityCell i.severity, ⟨i.rule.code, .plain⟩,
    cell i.message .plain, fixCell i]

/-- The rows of issues that are counted from a position on. -/
def issueRows : Nat → List Issue → List (List Piece)
  | _, [] => []
  | n, i :: is => issueRow n i :: issueRows (n + 1) is

/-- The column headings. -/
def issueHeadings : List Text :=
  ["#", "Severity", "Rule", "Message", "Fix"].map String.toList

/-- All issues of a message. -/
def issues (is : List Issue) : Item :=
  if is.isEmpty then
    colored .green "No issues found - the commit message is valid!".toList
  else .table issueHeadings (issueRows 0 is)

/-- The line for one type in the list to choose from. -/
def typePiece (selected : Option CommitType) (k : CommitType) : Piece :=
  if selected = some k then ⟨"> ".toList ++ k.label ++ ['\n'], .boldGreen⟩
  else ⟨"  ".toList ++ k.label ++ ['\n'], .plain⟩

/-- What a decision is made from. -/
def choice (kind : ChoiceKind) (selected : Option CommitType) : Item :=
  match kind with
  | .type =>
    panelOf "Choose a commit type".toList .magenta (CommitType.all.map (typePiece selected))

/-- A repaired message. -/
def fixedMessage (t : Text) : Item :=
  panelOf "Fixed message".toList .green [⟨t, .plain⟩]

end CommitLint.Report
