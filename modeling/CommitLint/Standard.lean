import CommitLint.Lint

/-!
# Standards

A standard says what a text without faults looks like, without a word about
rules and issues: how the header is spelled, how long the lines may be, and
where the body starts.  `Standard.clean` is the standard of texts without any
issue, `Standard.passing` the standard of texts without errors.
-/

namespace CommitLint

open Text

/-- A header as it is spelled: a type, perhaps a scope, a colon between two
gaps, and the rest of the line. -/
structure Spelling where
  kind : CommitType
  scope : Option Text
  before : Text
  after : Text
  rest : Text
  deriving DecidableEq, Repr

namespace Spelling

/-- The line that is spelled. -/
def toText (s : Spelling) : Text :=
  s.kind.name ++ Header.bracketed s.scope ++ s.before ++ ':' :: s.after ++ s.rest

/-- The gaps are blank, the rest is not, and a scope is empty or well formed. -/
structure Proper (s : Spelling) : Prop where
  before_blank : blank s.before = true
  after_blank : blank s.after = true
  rest_not_blank : blank s.rest = false
  scope_formed : ∀ t ∈ s.scope, t = [] ∨ Scope.wellFormed t = true

/-- The last character that is not blank is a period. -/
def EndsWithPeriod (s : Spelling) : Prop := (trimEnd s.rest).getLast? = some '.'

end Spelling

/-- What texts are held to. -/
structure Standard where
  /-- The longest header. -/
  headerMax : Nat
  /-- The longest line. -/
  lineMax : Nat
  /-- The header may end with a period. -/
  allowsPeriod : Bool
  deriving DecidableEq, Repr

namespace Standard

/-- The standard of texts without issues. -/
def clean : Standard := ⟨Rule.headerWarn, Rule.lineWarn, false⟩

/-- The standard of texts without errors. -/
def passing : Standard := ⟨Rule.headerMax, Rule.lineMax, true⟩

/-- The lines of a message come up to a standard. -/
structure Holds (std : Standard) (header : Text) (rest : List Text) : Prop where
  spelled : ∃ s : Spelling, s.Proper ∧ s.toText = header ∧
    (std.allowsPeriod = true ∨ ¬ s.EndsWithPeriod)
  header_short : header.length ≤ std.headerMax
  body_apart : ∀ l ∈ rest.head?, blank l = true
  lines_short : ∀ l ∈ header :: rest, l.length ≤ std.lineMax

/-- A text comes up to a standard when it is trimmed. -/
def Accepts (std : Standard) (t : Text) : Prop :=
  trim t ≠ [] ∧ ∃ header rest, lines (trim t) = header :: rest ∧ std.Holds header rest

end Standard

end CommitLint
