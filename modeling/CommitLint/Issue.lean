import CommitLint.CommitType

/-!
# Issues and fixes

An issue is one violation of one rule, found in a message.  Most issues carry
the edit that repairs them.  A fix holds only what is needed to work the edit
out again, so that it can be applied to a text that other fixes have changed
already.
-/

namespace CommitLint

/-- How much an issue weighs. -/
inductive Severity where
  | error | warning
  deriving DecidableEq, Repr

/-- The rules, in the order in which they are checked. -/
inductive Rule where
  /-- R1: there is a header. -/
  | headerPresent
  /-- R2: the type is one of the vocabulary. -/
  | knownType
  /-- R3: the scope is a well-formed name. -/
  | scopeFormat
  /-- R4: a colon follows the type and the scope. -/
  | colonPresent
  /-- R5: there is a subject. -/
  | subjectPresent
  /-- R6: the subject does not end with a period. -/
  | noFinalPeriod
  /-- R7: the header is short. -/
  | headerLength
  /-- R8: the line below the header is blank. -/
  | blankLine
  /-- R9: every line is short. -/
  | lineLength
  deriving DecidableEq, Repr

/-- The kinds of decision that a fix may leave to the user. -/
inductive ChoiceKind where
  | type
  deriving DecidableEq, Repr

/-- An edit that repairs an issue. -/
inductive Fix where
  /-- Trim the whole text. -/
  | trimEnds
  /-- Write the type at the head of the text in lower case. -/
  | lowercaseType (found : Text)
  /-- Put a colon after the type and the scope. -/
  | insertColon
  /-- Take the final period off the header. -/
  | dropPeriod
  /-- Put an empty line below the header. -/
  | insertBlankLine
  /-- Break a line, given by its index. -/
  | wrapLine (index : Nat)
  /-- Put in what the user decides on. -/
  | choose (kind : ChoiceKind)
  deriving DecidableEq, Repr

/-- A rule violation. -/
structure Issue where
  rule : Rule
  severity : Severity
  message : Text
  fix : Option Fix
  deriving DecidableEq, Repr

/-- The user's decisions, as far as they have been made. -/
structure Choices where
  type : Option CommitType
  deriving DecidableEq, Repr

namespace Severity

/-- The word for a severity. -/
def name : Severity → Text
  | error => "error".toList
  | warning => "warning".toList

/-- Both severities. -/
def all : List Severity := [error, warning]

/-- The severity of a word. -/
def ofName? (t : Text) : Option Severity := all.find? fun s => s.name == t

end Severity

namespace Rule

/-- The short code of a rule. -/
def code : Rule → Text
  | headerPresent => "R1".toList
  | knownType => "R2".toList
  | scopeFormat => "R3".toList
  | colonPresent => "R4".toList
  | subjectPresent => "R5".toList
  | noFinalPeriod => "R6".toList
  | headerLength => "R7".toList
  | blankLine => "R8".toList
  | lineLength => "R9".toList

/-- The rank of a rule in the order of checking. -/
def rank : Rule → Nat
  | headerPresent => 1
  | knownType => 2
  | scopeFormat => 3
  | colonPresent => 4
  | subjectPresent => 5
  | noFinalPeriod => 6
  | headerLength => 7
  | blankLine => 8
  | lineLength => 9

/-- All rules, in the order of checking. -/
def all : List Rule :=
  [headerPresent, knownType, scopeFormat, colonPresent, subjectPresent,
    noFinalPeriod, headerLength, blankLine, lineLength]

/-- The rule of a code. -/
def ofCode? (t : Text) : Option Rule := all.find? fun r => r.code == t

@[simp] theorem ofCode?_code (r : Rule) : ofCode? r.code = some r := by
  cases r <;> decide

end Rule

namespace ChoiceKind

/-- The word for a kind of decision. -/
def name : ChoiceKind → Text
  | type => "type".toList

/-- All kinds of decision. -/
def all : List ChoiceKind := [type]

/-- The kind of decision of a word. -/
def ofName? (t : Text) : Option ChoiceKind := all.find? fun k => k.name == t

end ChoiceKind

namespace Choices

/-- No decision has been made. -/
def undecided : Choices := ⟨none⟩

/-- The decision of a kind, if it has been made. -/
def get (c : Choices) : ChoiceKind → Option CommitType
  | .type => c.type

/-- Decide on a kind; an earlier decision gives way. -/
def set (c : Choices) (kind : ChoiceKind) (value : CommitType) : Choices :=
  match kind with
  | .type => { c with type := some value }

@[simp] theorem get_set (c : Choices) (kind : ChoiceKind) (value : CommitType) :
    (c.set kind value).get kind = some value := by
  cases kind
  rfl

end Choices

namespace Fix

/-- The word for a kind of fix. -/
def kindName : Fix → Text
  | trimEnds => "trim-whitespace".toList
  | lowercaseType _ => "lowercase-type".toList
  | insertColon => "insert-colon".toList
  | dropPeriod => "remove-trailing-period".toList
  | insertBlankLine => "ensure-blank-line".toList
  | wrapLine _ => "wrap-long-line".toList
  | choose _ => "require-user-choice".toList

/-- The decision that a fix waits for. -/
def choiceKind? : Fix → Option ChoiceKind
  | choose kind => some kind
  | _ => none

end Fix

namespace Issue

/-- The decision that an issue's fix waits for. -/
def choiceKind? (i : Issue) : Option ChoiceKind := i.fix.bind Fix.choiceKind?

/-- Whether an issue has a fix that needs no decision. -/
def fixable (i : Issue) : Bool :=
  match i.fix with
  | none => false
  | some f => f.choiceKind?.isNone

/-- Whether an issue is an error. -/
def isError (i : Issue) : Bool := i.severity == .error

end Issue

/-- Whether some issue waits for a decision. -/
def requiresChoice (issues : List Issue) : Bool :=
  issues.any fun i => i.choiceKind?.isSome

/-- Add a kind at the end unless it is there. -/
def addKind (kinds : List ChoiceKind) (k : ChoiceKind) : List ChoiceKind :=
  if k ∈ kinds then kinds else kinds ++ [k]

/-- The decisions that issues wait for, each once, in order of appearance. -/
def requiredChoices (issues : List Issue) : List ChoiceKind :=
  (issues.filterMap Issue.choiceKind?).foldl addKind []

end CommitLint
