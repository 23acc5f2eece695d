import CommitLint.Rule

/-!
# Linting

To lint a text is to read it as a message and run all rules over the result.
A blank text cannot be read; it is reported as one R1 error, so that it can be
treated like any other issue.  A text passes when no issue is an error.
-/

namespace CommitLint

/-- The issues of a message, in the order of the rules. -/
def Message.issues (m : Message) : List Issue := Rule.runChain m Rule.all []

/-- The issues of a text. -/
def lint (t : Text) : List Issue :=
  match Message.parse? (Message.normalize t) with
  | none => [⟨.headerPresent, .error, Message.emptyError, none⟩]
  | some m => m.issues

/-- What linting concludes: the message of the first error, if there is one. -/
def firstError? (issues : List Issue) : Option Text :=
  (issues.find? Issue.isError).map Issue.message

/-- Whether a text passes, and why. -/
def verdict (t : Text) : Bool × Text :=
  match firstError? (lint t) with
  | some message => (false, message)
  | none => (true, "Valid commit message".toList)

/-- How many issues have a severity. -/
def countSeverity (issues : List Issue) (s : Severity) : Nat :=
  issues.countP fun i => i.severity == s

/-- The number of errors and of warnings, in words. -/
def summary (issues : List Issue) : Text :=
  Text.decimal (countSeverity issues .error) ++ " error(s), ".toList ++
    Text.decimal (countSeverity issues .warning) ++ " warning(s)".toList

end CommitLint
