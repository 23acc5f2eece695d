import CommitLint.Issue
import CommitLint.Message
import CommitLint.Value.Decode

/-!
# Records

Fixes, issues, choices and messages read from values.  A fix is a table whose
`kind` selects its shape, and the kind is a step in the path to its problems.
-/

namespace CommitLint

open Value

/-- Read the fields that belong to a kind of fix. -/
def Fix.decodeKind? (kind : Text) (entries : List (Text × Value)) : Option (Decoded Fix) :=
  if kind = Fix.trimEnds.kindName then some (.ok .trimEnds)
  else if kind = (Fix.lowercaseType []).kindName then
    some ((field "original" decodeText entries).map .lowercaseType)
  else if kind = Fix.insertColon.kindName then some (.ok .insertColon)
  else if kind = Fix.dropPeriod.kindName then some (.ok .dropPeriod)
  else if kind = Fix.insertBlankLine.kindName then some (.ok .insertBlankLine)
  else if kind = (Fix.wrapLine 0).kindName then
    some ((field "line_index" decodeNat entries).map .wrapLine)
  else if kind = (Fix.choose .type).kindName then
    some ((fieldOr "choice_type" .type (decodeMember ChoiceKind.ofName?) entries).map .choose)
  else none

/-- Read a fix. -/
def Fix.decode : Value → Decoded Fix
  | table entries =>
    match find? "kind".toList entries with
    | none => .fail .noKind
    | some (text kind) =>
      match decodeKind? kind entries with
      | none => .fail .unknownKind
      | some d => d.under kind
    | some _ => .fail .unknownKind
  | _ => .fail .notTagged

/-- Read an issue. -/
def Issue.decode (v : Value) : Decoded Issue :=
  v.decodeTable.bind fun es =>
    ((((field "rule" (decodeMember Rule.ofCode?) es).map Issue.mk).and
      (field "severity" (decodeMember Severity.ofName?) es)).and
      (field "message" decodeText es)).and
      (fieldOr "fix" none (decodeOption Fix.decode) es)

/-- Read choices. -/
def Choices.decode (v : Value) : Decoded Choices :=
  v.decodeTable.bind fun es =>
    (fieldOr "type" none (decodeOption (decodeMember CommitType.ofName?)) es).map Choices.mk

/-- Read a message whose parts need not fit its header. -/
def Message.decode (v : Value) : Decoded Message :=
  v.decodeTable.bind fun es =>
    (((((((((field "raw" decodeText es).map
        fun raw header type scope subject hasColon body lines =>
          Message.mk raw header ⟨type, scope, hasColon, subject⟩ body lines).and
      (field "header" decodeText es)).and
      (fieldOr "type" none (decodeOption decodeText) es)).and
      (fieldOr "scope" none (decodeOption decodeText) es)).and
      (fieldOr "subject" none (decodeOption decodeText) es)).and
      (fieldOr "has_colon" false decodeBool es)).and
      (fieldOr "body" none (decodeOption decodeText) es)).and
      (field "lines" (decodeList decodeText) es))

end CommitLint
