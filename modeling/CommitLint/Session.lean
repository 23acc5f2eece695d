import CommitLint.Fix
import CommitLint.Text.Quoted

/-!
# Sessions

A session is what an interactive front end keeps between two actions of its
user: the text, its issues, the decisions made so far, and what the last
repair of everything gave.  Every change of the text lints it again and drops
the decisions.  An action that cannot be carried out leaves the session as it
was.
-/

namespace CommitLint

/-- The state between two actions. -/
structure Session where
  current : Text
  fixed : Text
  issues : List Issue
  choices : Choices
  deriving DecidableEq, Repr

namespace Session

/-- The session before any action. -/
def empty : Session := ⟨[], [], [], .undecided⟩

/-- Take a new text: trim it, lint it, and drop all decisions. -/
def update (s : Session) (t : Text) : Session :=
  let trimmed := Message.normalize t
  { s with current := trimmed, issues := lint trimmed, choices := .undecided }

/-- Record a decision. -/
def choose (s : Session) (kind : ChoiceKind) (value : CommitType) : Session :=
  { s with choices := s.choices.set kind value }

/-- Repair all issues and take the result as the new text. -/
def applyAll (s : Session) : Session :=
  let fixed := repairAll s.choices s.current s.issues
  { s with fixed := fixed }.update fixed

/-- Repair one issue and take the result as the new text. -/
def applyIssue (s : Session) (i : Issue) : Session :=
  s.update (i.repair s.choices s.current)

/-- Whether some issue waits for a decision. -/
def needsChoice (s : Session) : Bool := requiresChoice s.issues

/-- The decisions that the issues wait for. -/
def required (s : Session) : List ChoiceKind := requiredChoices s.issues

/-- Whether every decision that the issues wait for has been made. -/
def hasAllChoices (s : Session) : Bool :=
  s.required.all fun kind => (s.choices.get kind).isSome

/-- The positions, counted from a number on, of the issues that can be
repaired on their own. -/
def fixableFrom : Nat → List Issue → List Nat
  | _, [] => []
  | n, i :: is => if i.fixable then n :: fixableFrom (n + 1) is else fixableFrom (n + 1) is

/-- The positions of the issues that can be repaired on their own. -/
def fixable (s : Session) : List Nat := fixableFrom 0 s.issues

/-- The issue at a position; a negative position counts from the end. -/
def issueAt? (s : Session) (index : Int) : Option Issue :=
  match index with
  | .ofNat n => s.issues[n]?
  | .negSucc n => s.issues.reverse[n]?

/-! ## Actions -/

/-- What a user can do, in the words in which it is asked for. -/
inductive Action where
  | update (text : Text)
  | choose (kind value : Text)
  | applyAll
  | applyIssue (index : Int)
  deriving DecidableEq, Repr

/-- Why an action cannot be carried out. -/
inductive Refusal where
  /-- The word is no kind of decision. -/
  | unknownKind (word : Text)
  /-- The word is no commit type. -/
  | unknownType (word : Text)
  /-- There is no issue at the position. -/
  | noIssue (index : Int)
  /-- No list could have the position: a machine word does not hold it. -/
  | noIndex (index : Int)
  deriving DecidableEq, Repr

/-- A refusal in words. -/
def Refusal.message : Refusal → Text
  | unknownKind word => Text.quoted word ++ " is not a valid ChoiceKind".toList
  | unknownType word => Text.quoted word ++ " is not a valid CommitType".toList
  | noIssue _ => "tuple index out of range".toList
  | noIndex _ => "cannot fit 'int' into an index-sized integer".toList

/-- Whether a machine word holds a position. -/
def isIndex (index : Int) : Bool :=
  -9223372036854775808 ≤ index && index ≤ 9223372036854775807

/-- Carry out an action. -/
def act (s : Session) : Action → Except Refusal Session
  | .update t => .ok (s.update t)
  | .choose kind value =>
    match ChoiceKind.ofName? kind with
    | none => .error (.unknownKind kind)
    | some k =>
      match CommitType.ofName? value with
      | none => .error (.unknownType value)
      | some v => .ok (s.choose k v)
  | .applyAll => .ok s.applyAll
  | .applyIssue index =>
    match s.issueAt? index with
    | none => .error (if isIndex index then .noIssue index else .noIndex index)
    | some i => .ok (s.applyIssue i)

/-- The session after an action, whether it was carried out or not. -/
def after (s : Session) (a : Action) : Session :=
  match s.act a with
  | .ok s' => s'
  | .error _ => s

/-- The session that actions lead to, one after another from the beginning. -/
def run (actions : List Action) : Session := actions.foldl after empty

/-! ## Small facts -/

/-- One more action is taken at the end. -/
@[simp] theorem run_append_singleton (actions : List Action) (a : Action) :
    run (actions ++ [a]) = (run actions).after a := by
  simp [run]

/-- A text that has been taken is trimmed and linted, and no decision is left. -/
theorem update_eq (s : Session) (t : Text) :
    s.update t = ⟨Text.trim t, s.fixed, lint (Text.trim t), .undecided⟩ := rfl

end Session

end CommitLint
