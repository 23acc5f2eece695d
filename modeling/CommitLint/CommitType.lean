import CommitLint.Text.Case

/-!
# Commit types

The closed vocabulary of conventional commit types, in its canonical order.
A type's name is its lower-case keyword; `ofName?` reads exactly these names,
and `ofAnyCase?` reads a name in any mixture of cases.
-/

namespace CommitLint

/-- What kind of change a commit makes. -/
inductive CommitType where
  | feat | fix | docs | style | refactor | perf | test | build | ci | chore | revert
  deriving DecidableEq, Repr, Inhabited

namespace CommitType

/-- The keyword that stands at the head of a message. -/
def name : CommitType → Text
  | feat => "feat".toList
  | fix => "fix".toList
  | docs => "docs".toList
  | style => "style".toList
  | refactor => "refactor".toList
  | perf => "perf".toList
  | test => "test".toList
  | build => "build".toList
  | ci => "ci".toList
  | chore => "chore".toList
  | revert => "revert".toList

/-- All commit types, in canonical order. -/
def all : List CommitType :=
  [feat, fix, docs, style, refactor, perf, test, build, ci, chore, revert]

/-- The type of a name, in exactly this spelling. -/
def ofName? (t : Text) : Option CommitType := all.find? fun k => k.name == t

/-- The type of a name in any mixture of cases. -/
def ofAnyCase? (t : Text) : Option CommitType := ofName? (Text.lower t)

/-- All names, separated by commas. -/
def listing : Text := ", ".toList.intercalate (all.map name)

/-- A one-line description for someone who has to pick a type. -/
def label : CommitType → Text
  | feat => "feat - new feature".toList
  | fix => "fix - bug fix".toList
  | docs => "docs - documentation".toList
  | style => "style - code formatting".toList
  | refactor => "refactor - refactoring".toList
  | perf => "perf - performance improvement".toList
  | test => "test - tests".toList
  | build => "build - build system".toList
  | ci => "ci - continuous integration".toList
  | chore => "chore - maintenance tasks".toList
  | revert => "revert - revert changes".toList

/-! ## Small facts -/

/-- A name reads back as its type. -/
@[simp] theorem ofName?_name (k : CommitType) : ofName? k.name = some k := by
  cases k <;> decide

/-- Only the names are read. -/
theorem ofName?_eq_some_iff {t : Text} {k : CommitType} :
    ofName? t = some k ↔ t = k.name := by
  constructor
  · intro h
    have := List.find?_some h
    exact (beq_iff_eq.1 this).symm
  · rintro rfl
    exact ofName?_name k

end CommitType

end CommitLint
