import CommitLint.Lint
import CommitLint.Wrap

/-!
# Applying fixes

A list of issues is repaired from left to right, each fix working on the text
that the previous one left.  A fix whose place is not there any more changes
nothing.
-/

namespace CommitLint

open Text

namespace Fix

/-- The width that long lines are wrapped to. -/
def wrapWidth : Int := 72

/-- Write the type at the head of the text in lower case, if it is there in
some mixture of cases. -/
def lowercaseHead (found t : Text) : Text :=
  if beginsCaseless found t then lower found ++ t.drop found.length else t

/-- Put a colon and a space after the type and the scope of a line, and trim
what follows; a line without a type stays. -/
def addColon (line : Text) : Text :=
  match Header.opening? line with
  | none => line
  | some o => o.type ++ Header.bracketed o.scope ++ ':' :: ' ' :: trim o.rest

/-- Take a final period, and the blank characters after it, off a line. -/
def chopPeriod (line : Text) : Text :=
  let kept := trimEnd line
  if kept.getLast? = some '.' then kept.dropLast else line

/-- Put an empty line below the header if the line there is not blank. -/
def separateBody (t : Text) : Text :=
  match lines t with
  | header :: l :: ls => if blank l then t else unlines (header :: [] :: l :: ls)
  | _ => t

/-- Wrap the line of an index; an index past the end changes nothing. -/
def wrapLineAt (index : Nat) (t : Text) : Text :=
  let ls := lines t
  match ls[index]? with
  | none => t
  | some l => unlines (ls.set index (Wrap.wrap wrapWidth l))

/-- Put a type in front.  It replaces the type that the text begins with; a
message without a type is cut before its first colon, or kept after a new one
if it has none. -/
def putType (kind : CommitType) (t : Text) : Text :=
  match Message.parse? t with
  | none => t
  | some m =>
    if m.parts.type.isNone then
      match t.dropWhile (· != ':') with
      | [] => kind.name ++ ':' :: ' ' :: trim t
      | rest => kind.name ++ rest
    else
      match t.takeWhile isLetter with
      | [] => t
      | _ => kind.name ++ t.dropWhile isLetter

/-- Apply a fix to a text. -/
def apply (choices : Choices) : Fix → Text → Text
  | trimEnds, t => trim t
  | lowercaseType found, t => lowercaseHead found t
  | insertColon, t => mapFirstLine addColon t
  | dropPeriod, t => mapFirstLine chopPeriod t
  | insertBlankLine, t => separateBody t
  | wrapLine index, t => wrapLineAt index t
  | choose kind, t =>
    match choices.get kind with
    | none => t
    | some k => putType k t

end Fix

namespace Issue

/-- Repair one issue; an issue without a fix changes nothing. -/
def repair (choices : Choices) (t : Text) (i : Issue) : Text :=
  match i.fix with
  | none => t
  | some f => f.apply choices t

end Issue

/-- Repair issues from left to right. -/
def repairAll (choices : Choices) (t : Text) (issues : List Issue) : Text :=
  issues.foldl (Issue.repair choices) t

/-- Trim a text and repair all that linting finds in it. -/
def fixAll (choices : Choices) (t : Text) : Text :=
  let trimmed := Message.normalize t
  repairAll choices trimmed (lint trimmed)

end CommitLint
