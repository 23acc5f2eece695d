import CommitLint.Clock
import CommitLint.Lint
import CommitLint.Report.Item

/-!
# Events and the log

Linting and fixing are events.  The console is told of each in one line.  The
log gets records, one line each: a stamp, a hyphen between spaces, and the
record's message.  A lint event gives one record for the text, which shows its
first line, and one for each issue; a fix event gives one record.  The clock is
read for each record.
-/

namespace CommitLint.Log

open Text

/-- Something worth telling. -/
inductive Event where
  | linted (text : Text) (issues : List Issue)
  | fixed (before after : Text)
  deriving DecidableEq, Repr

/-- The message of an issue's record. -/
def issueMessage (i : Issue) : Text :=
  "  [".toList ++ i.rule.code ++ "] ".toList ++ i.severity.name ++ ": ".toList ++ i.message

/-- The messages of an event's records. -/
def Event.messages : Event → List Text
  | .linted text issues =>
    ("Linted '".toList ++ firstLine text ++ "': ".toList ++ summary issues) ::
      issues.map issueMessage
  | .fixed before after =>
    [(if before = after then "Nothing to fix in" else "Fixed").toList ++ " '".toList ++
      firstLine before ++ "' -> '".toList ++ firstLine after ++ "'".toList]

/-- A record. -/
def record (now : Moment) (message : Text) : Text :=
  now.stamp ++ " - ".toList ++ message ++ ['\n']

/-- What the console is told of an event. -/
def Event.announcement : Event → Report.Item
  | .linted _ issues =>
    Report.colored (if issues.any Issue.isError then .red else .green)
      ("Lint finished: ".toList ++ summary issues)
  | .fixed before after =>
    if before = after then
      Report.colored .yellow "No fixes changed the message".toList
    else Report.colored .green "Applied fixes to commit message".toList

end CommitLint.Log
