import CommitLint.Issue
import CommitLint.Message
import CommitLint.Scope
import CommitLint.Text.Numeral

/-!
# Checking the rules

Every rule looks at a message on its own and lists the issues it finds.  A
chain of rules is run in order, and each rule adds its issues after those of
the rules before it; no rule stops the ones that follow.  The order of the
chain is the order of the issues, so an issue can be named by its position.

The header may have 72 characters without a warning and 100 without an error;
a line may have 75 and 100.
-/

namespace CommitLint.Rule

open Text

/-- The longest header without an error. -/
def headerMax : Nat := 100

/-- The longest header without a warning. -/
def headerWarn : Nat := 72

/-- The longest line without an error. -/
def lineMax : Nat := 100

/-- The longest line without a warning. -/
def lineWarn : Nat := 75

/-- A value of the message between double quotes. -/
def inQuotes (t : Text) : Text := '\x22' :: t ++ ['\x22']

/-- R1. -/
def checkHeaderPresent (m : Message) : List Issue :=
  if blank m.header then
    [⟨headerPresent, .error, "Header must exist and must not be empty".toList, none⟩]
  else []

/-- R2.  A type that differs from a known one in case only can be written in
lower case; for a missing or unknown one the user has to choose. -/
def checkKnownType (m : Message) : List Issue :=
  match m.parts.type with
  | none =>
    [⟨knownType, .error,
      "Missing commit type. Allowed: ".toList ++ CommitType.listing,
      some (.choose .type)⟩]
  | some t =>
    if (CommitType.ofName? t).isSome then []
    else if (CommitType.ofAnyCase? t).isSome then
      [⟨knownType, .error,
        "Type ".toList ++ inQuotes t ++ " should be lowercase".toList,
        some (.lowercaseType t)⟩]
    else
      [⟨knownType, .error,
        "Invalid type ".toList ++ inQuotes t ++ ". Allowed: ".toList ++ CommitType.listing,
        some (.choose .type)⟩]

/-- R3.  An empty scope counts as none. -/
def checkScopeFormat (m : Message) : List Issue :=
  match m.parts.scope with
  | none => []
  | some s =>
    if s.isEmpty || Scope.wellFormed s then []
    else
      [⟨scopeFormat, .error,
        "Scope ".toList ++ inQuotes s ++
          " must be kebab-case or snake_case (letters, digits, -, _)".toList,
        none⟩]

/-- R4. -/
def checkColonPresent (m : Message) : List Issue :=
  if m.parts.type.isSome && !m.parts.hasColon then
    [⟨colonPresent, .error, "Missing colon after type/scope".toList, some .insertColon⟩]
  else []

/-- The subject is missing or empty. -/
def lacksSubject (m : Message) : Bool := (m.parts.subject.getD []).isEmpty

/-- R5.  Only a header with a type and a colon is asked for a subject. -/
def checkSubjectPresent (m : Message) : List Issue :=
  if m.parts.type.isSome && m.parts.hasColon && lacksSubject m then
    [⟨subjectPresent, .error, "Subject must not be empty".toList, none⟩]
  else []

/-- R6. -/
def checkNoFinalPeriod (m : Message) : List Issue :=
  if (m.parts.subject.getD []).getLast? == some '.' then
    [⟨noFinalPeriod, .warning, "Subject should not end with a period".toList,
      some .dropPeriod⟩]
  else []

/-- R7. -/
def checkHeaderLength (m : Message) : List Issue :=
  let n := m.header.length
  if n > headerMax then
    [⟨headerLength, .error,
      "Header too long (".toList ++ decimal n ++ " characters). Maximum is ".toList ++
        decimal headerMax ++ ".".toList,
      none⟩]
  else if n > headerWarn then
    [⟨headerLength, .warning,
      "Header length (".toList ++ decimal n ++ " characters) exceeds the recommended ".toList ++
        decimal headerWarn ++ ".".toList,
      none⟩]
  else []

/-- R8. -/
def checkBlankLine (m : Message) : List Issue :=
  if Message.crowdsHeader m.lines then
    [⟨blankLine, .error,
      "Body must be separated from the header by a blank line".toList,
      some .insertBlankLine⟩]
  else []

/-- The issue of a line that exceeds a limit. -/
def longLine (severity : Severity) (limit index length : Nat) : Issue :=
  ⟨lineLength, severity,
    "Line ".toList ++ decimal (index + 1) ++ " exceeds ".toList ++ decimal limit ++
      " characters (".toList ++ decimal length ++ ")".toList,
    some (.wrapLine index)⟩

/-- The issue of one line, if it is too long. -/
def longLine? (index : Nat) (line : Text) : Option Issue :=
  let n := line.length
  if n > lineMax then some (longLine .error lineMax index n)
  else if n > lineWarn then some (longLine .warning lineWarn index n)
  else none

/-- The issues of lines that are counted from an index on. -/
def longLines : Nat → List Text → List Issue
  | _, [] => []
  | index, l :: ls => (longLine? index l).toList ++ longLines (index + 1) ls

/-- R9.  The header is a line too. -/
def checkLineLength (m : Message) : List Issue := longLines 0 m.lines

/-- The issues that a rule finds in a message. -/
def check : Rule → Message → List Issue
  | headerPresent => checkHeaderPresent
  | knownType => checkKnownType
  | scopeFormat => checkScopeFormat
  | colonPresent => checkColonPresent
  | subjectPresent => checkSubjectPresent
  | noFinalPeriod => checkNoFinalPeriod
  | headerLength => checkHeaderLength
  | blankLine => checkBlankLine
  | lineLength => checkLineLength

/-- Run a chain of rules, each adding to the issues found before it. -/
def runChain (m : Message) : List Rule → List Issue → List Issue
  | [], found => found
  | r :: rs, found => runChain m rs (found ++ r.check m)

/-- A chain lists what each of its rules finds, in the order of the chain. -/
theorem runChain_eq (m : Message) (rs : List Rule) (found : List Issue) :
    runChain m rs found = found ++ rs.flatMap (·.check m) := by
  induction rs generalizing found with
  | nil => simp [runChain]
  | cons r rs ih => simp [runChain, ih]

end CommitLint.Rule
