import CommitLint.Session
import CommitLint.Proofs.IssueList
import Mathlib.Data.List.DropRight

/-!
# What a session says about the actions before it

A session keeps no record of how it came about.  Here the actions that are
carried out on the way to it are written down, each with the session it was
carried out on, and every field of the session is read off that record: the
text is trimmed and the issues are its own once an action has changed the text,
the decision is the last one since then, and the repaired text is what the last
repair of everything gave, before it was trimmed.

`Account` states this.  An action that is carried out keeps it
(`Account.act`), one that is refused changes nothing, and so every run keeps it.
The other questions that a session answers depend on its issues alone.

Main results: `account_run`, `run_invariant`.
-/

namespace CommitLint.Session

open Text

/-! ## What an action can do -/

/-- An action that is carried out takes a text, records a decision, or repairs
everything or one issue. -/
theorem act_cases {s s' : Session} {a : Action} (h : s.act a = .ok s') :
    (∃ t, a = .update t ∧ s' = s.update t) ∨
      (∃ kind value k v, a = .choose kind value ∧ CommitType.ofName? value = some v ∧
        s' = s.choose k v) ∨
      (a = .applyAll ∧ s' = s.applyAll) ∨
      ∃ index i, a = .applyIssue index ∧ s.issueAt? index = some i ∧ s' = s.applyIssue i := by
  cases a with
  | update t => exact Or.inl ⟨t, rfl, (Except.ok.inj h).symm⟩
  | choose kind value =>
      right; left
      simp only [act] at h
      split at h
      · contradiction
      · rename_i k _
        split at h
        · contradiction
        · rename_i v hValue
          exact ⟨kind, value, k, v, rfl, hValue, (Except.ok.inj h).symm⟩
  | applyAll => exact Or.inr (Or.inr (Or.inl ⟨rfl, (Except.ok.inj h).symm⟩))
  | applyIssue index =>
      right; right; right
      simp only [act] at h
      split at h
      · contradiction
      · rename_i i hIssue
        exact ⟨index, i, rfl, hIssue, (Except.ok.inj h).symm⟩

/-! ## The record of a run -/

/-- An action that was carried out, and the session it was carried out on. -/
structure Deed where
  before : Session
  action : Action
  deriving DecidableEq, Repr

/-- The actions that are carried out when a list of them is taken from a session
on; the refused ones leave no trace. -/
def carriedOut : Session → List Action → List Deed
  | _, [] => []
  | s, a :: as =>
    match s.act a with
    | .ok s' => ⟨s, a⟩ :: carriedOut s' as
    | .error _ => carriedOut s as

namespace Deed

/-- All actions but a decision change the text. -/
def changesText (d : Deed) : Bool :=
  match d.action with
  | .choose _ _ => false
  | _ => true

/-- The type that a decision was for. -/
def decision? (d : Deed) : Option CommitType :=
  match d.action with
  | .choose _ value => CommitType.ofName? value
  | _ => none

/-- The text that a repair of everything gave, as it was before trimming. -/
def repaired? (d : Deed) : Option Text :=
  match d.action with
  | .applyAll => some (repairAll d.before.choices d.before.current d.before.issues)
  | _ => none

end Deed

/-- The last decision that was made after the text had last changed. -/
def lastDecision (deeds : List Deed) : Option CommitType :=
  (deeds.rtakeWhile fun d => !d.changesText).getLast?.bind Deed.decision?

/-- What the last repair of everything gave; nothing if there was none. -/
def lastRepair (deeds : List Deed) : Text :=
  (deeds.filterMap Deed.repaired?).getLast?.getD []

/-! ## One deed more -/

section

variable {deeds : List Deed} {d : Deed}

/-- A change of the text drops the decision. -/
theorem lastDecision_of_changesText (h : d.changesText = true) :
    lastDecision (deeds ++ [d]) = none := by
  simp [lastDecision, h]

/-- A decision takes the place of the one before it. -/
theorem lastDecision_of_not_changesText (h : d.changesText = false) :
    lastDecision (deeds ++ [d]) = d.decision? := by
  simp [lastDecision, h]

theorem lastRepair_of_none (h : d.repaired? = none) :
    lastRepair (deeds ++ [d]) = lastRepair deeds := by
  simp [lastRepair, h]

theorem lastRepair_of_some {t : Text} (h : d.repaired? = some t) :
    lastRepair (deeds ++ [d]) = t := by
  simp [lastRepair, h]

end

/-! ## The account of a session -/

/-- The fields of a session as the deeds that led to it determine them. -/
structure Account (deeds : List Deed) (s : Session) : Prop where
  trimmed : trim s.current = s.current
  linted : if deeds.any Deed.changesText then s.issues = lint s.current
    else s.current = [] ∧ s.issues = []
  decided : s.choices.type = lastDecision deeds
  repaired : s.fixed = lastRepair deeds

namespace Account

variable {deeds : List Deed} {s : Session}

theorem nil : Account [] empty :=
  { trimmed := rfl
    linted := ⟨rfl, rfl⟩
    decided := rfl
    repaired := rfl }

/-- A session that has taken a new text. -/
theorem of_update {d : Deed} (hChanges : d.changesText = true) (t : Text)
    (hRepaired : s.fixed = lastRepair (deeds ++ [d])) :
    Account (deeds ++ [d]) (s.update t) :=
  { trimmed := trim_trim t
    linted := by
      simp only [List.any_append, List.any_cons, hChanges, Bool.true_or, Bool.or_true, if_true]
      rfl
    decided := (lastDecision_of_changesText hChanges).symm
    repaired := hRepaired }

/-- **One action**: what is carried out keeps the account, with one deed more. -/
theorem act (h : Account deeds s) {a : Action} {s' : Session} (hAct : s.act a = .ok s') :
    Account (deeds ++ [⟨s, a⟩]) s' := by
  rcases act_cases hAct with ⟨t, rfl, rfl⟩ | ⟨kind, value, k, v, rfl, hValue, rfl⟩ | ⟨rfl, rfl⟩ |
    ⟨index, i, rfl, -, rfl⟩
  · apply of_update rfl
    rw [lastRepair_of_none rfl]
    exact h.repaired
  · refine
      { trimmed := h.trimmed
        linted := ?_
        decided := ?_
        repaired := ?_ }
    · have hSame : Deed.changesText ⟨s, .choose kind value⟩ = false := rfl
      simp only [List.any_append, List.any_cons, List.any_nil, hSame, Bool.or_false]
      exact h.linted
    · rw [lastDecision_of_not_changesText rfl]
      show (s.choices.set k v).type = CommitType.ofName? value
      cases k
      exact hValue.symm
    · rw [lastRepair_of_none rfl]
      exact h.repaired
  · apply of_update rfl
    rw [lastRepair_of_some rfl]
  · apply of_update rfl
    rw [lastRepair_of_none rfl]
    exact h.repaired

/-- Any number of actions more, some of which may be refused. -/
theorem run (h : Account deeds s) (actions : List Action) :
    Account (deeds ++ carriedOut s actions) (actions.foldl after s) := by
  induction actions generalizing deeds s with
  | nil => simpa [carriedOut] using h
  | cons a as ih =>
      rw [List.foldl_cons, carriedOut, after]
      cases hAct : s.act a with
      | error _ => exact ih h
      | ok s' =>
          have hNext := ih (h.act hAct)
          rw [List.append_assoc] at hNext
          exact hNext

end Account

/-- Every run gives account of the session that it leads to. -/
theorem account_run (actions : List Action) :
    Account (carriedOut empty actions) (run actions) := Account.nil.run actions

/-! ## What a session answers -/

theorem mem_fixableFrom {issues : List Issue} {first n : Nat} :
    n ∈ fixableFrom first issues ↔
      ∃ k i, n = first + k ∧ issues[k]? = some i ∧ i.fixable = true := by
  induction issues generalizing first with
  | nil => simp [fixableFrom]
  | cons j js ih =>
      have hRest : n ∈ fixableFrom (first + 1) js ↔
          ∃ k i, n = first + (k + 1) ∧ (j :: js)[k + 1]? = some i ∧ i.fixable = true := by
        rw [ih]
        simp only [List.getElem?_cons_succ, Nat.add_assoc, Nat.add_comm 1]
      have hSplit : n ∈ fixableFrom first (j :: js) ↔
          (n = first ∧ j.fixable = true) ∨ n ∈ fixableFrom (first + 1) js := by
        rw [fixableFrom]
        split
        · rename_i hj
          simp [hj]
        · rename_i hj
          simp [hj]
      rw [hSplit, hRest]
      constructor
      · rintro (⟨rfl, hj⟩ | ⟨k, i, h⟩)
        · exact ⟨0, j, rfl, rfl, hj⟩
        · exact ⟨k + 1, i, h⟩
      · rintro ⟨k, i, hn, hi, hFixable⟩
        cases k with
        | zero =>
            obtain rfl := Option.some.inj hi
            exact Or.inl ⟨hn, hFixable⟩
        | succ k => exact Or.inr ⟨k, i, hn, hi, hFixable⟩

theorem mem_fixable {s : Session} {n : Nat} :
    n ∈ s.fixable ↔ ∃ i, s.issues[n]? = some i ∧ i.fixable = true := by
  rw [fixable, mem_fixableFrom]
  constructor
  · rintro ⟨k, i, rfl, hi⟩
    rw [Nat.zero_add]
    exact ⟨i, hi⟩
  · rintro ⟨i, hi⟩
    exact ⟨n, i, (Nat.zero_add n).symm, hi⟩

theorem foldl_addKind_eq_nil_iff (found kinds : List ChoiceKind) :
    kinds.foldl addKind found = [] ↔ found = [] ∧ kinds = [] := by
  induction kinds generalizing found with
  | nil => simp
  | cons k ks ih =>
      have hNe : addKind found k ≠ [] := by
        unfold addKind
        split
        · rename_i hMem
          exact List.ne_nil_of_mem hMem
        · simp
      rw [List.foldl_cons, ih]
      simp [hNe]

/-- A decision is needed exactly when some kind of decision is asked for. -/
theorem needsChoice_iff (s : Session) : s.needsChoice = true ↔ s.required ≠ [] := by
  rw [needsChoice, requiresChoice, required, requiredChoices, Ne, foldl_addKind_eq_nil_iff,
    List.any_eq_true, not_and]
  constructor
  · rintro ⟨i, hi, hKind⟩ - hNone
    rw [List.filterMap_eq_nil_iff] at hNone
    rw [hNone i hi] at hKind
    contradiction
  · intro h
    obtain ⟨k, hk⟩ := List.exists_mem_of_ne_nil _ (h rfl)
    obtain ⟨i, hi, hKind⟩ := List.mem_filterMap.1 hk
    exact ⟨i, hi, by rw [hKind]; rfl⟩

theorem mem_of_issueAt? {s : Session} {index : Int} {i : Issue}
    (h : s.issueAt? index = some i) : i ∈ s.issues := by
  cases index with
  | ofNat n => exact List.mem_of_getElem? h
  | negSucc n => exact List.mem_reverse.1 (List.mem_of_getElem? h)

/-- An issue that is there is repaired when it is asked for. -/
theorem act_applyIssue {s : Session} {index : Int} {i : Issue}
    (h : s.issueAt? index = some i) : s.act (.applyIssue index) = .ok (s.applyIssue i) := by
  rw [act, h]

theorem current_applyIssue (s : Session) (i : Issue) :
    (s.applyIssue i).current = trim (i.repair s.choices s.current) := rfl

theorem issues_applyIssue (s : Session) (i : Issue) :
    (s.applyIssue i).issues = lint (i.repair s.choices s.current) := lint_trim _

/-- Unless it is the one that a blank text has, an issue comes with those of the
reading of the text. -/
theorem Account.issues_eq_reading {deeds : List Deed} {s : Session} (h : Account deeds s)
    {i : Issue} (hi : i ∈ s.issues)
    (hOther : i ≠ ⟨.headerPresent, .error, Message.emptyError, none⟩) :
    blank s.current = false ∧ s.issues = (Message.reading s.current).issues := by
  have hLinted : s.issues = lint s.current := by
    have hEither := h.linted
    split at hEither
    · exact hEither
    · rw [hEither.2] at hi
      contradiction
  cases hBlank : blank s.current with
  | true =>
      rw [hLinted, lint_of_blank hBlank, List.mem_singleton] at hi
      contradiction
  | false => exact ⟨rfl, hLinted.trans (lint_eq_issues hBlank)⟩

theorem current_applyAll (s : Session) : s.applyAll.current = trim s.applyAll.fixed := rfl

theorem issues_applyAll (s : Session) : s.applyAll.issues = lint s.applyAll.current := rfl

/-- Repairing everything is what trimming, linting and repairing the text at once
give, also before any text has been taken. -/
theorem Account.fixed_applyAll {deeds : List Deed} {s : Session} (h : Account deeds s) :
    s.applyAll.fixed = fixAll s.choices s.current := by
  show repairAll s.choices s.current s.issues = fixAll s.choices s.current
  have hLinted := h.linted
  rw [fixAll, Message.normalize, h.trimmed]
  split at hLinted
  · rw [hLinted]
  · rw [hLinted.1, hLinted.2]
    rfl

/--
**Sessions give account of their runs**: after any actions, carried out or
refused, the text is trimmed; the issues are those of the text once some action
has changed it, and until then there is neither text nor issue; the decision is
the last one since the text last changed, and the repaired text is the one that
the last repair of everything gave.  The positions offered for repair are those
of the issues that can be repaired on their own, a decision is needed exactly
when a kind of decision is asked for, and repairing everything from here gives
what repairing the text alone gives, and takes its trimmed form.
-/
theorem run_invariant (actions : List Action) :
    let s := run actions
    let deeds := carriedOut empty actions
    trim s.current = s.current ∧
      (if deeds.any Deed.changesText then s.issues = lint s.current
        else s.current = [] ∧ s.issues = []) ∧
      s.choices.type = lastDecision deeds ∧
      s.fixed = lastRepair deeds ∧
      (∀ n, n ∈ s.fixable ↔ ∃ i, s.issues[n]? = some i ∧ i.fixable = true) ∧
      (s.needsChoice = true ↔ s.required ≠ []) ∧
      s.applyAll.fixed = fixAll s.choices s.current ∧
      s.applyAll.current = trim s.applyAll.fixed := by
  intro s deeds
  have h := account_run actions
  exact ⟨h.trimmed, h.linted, h.decided, h.repaired, fun _ => mem_fixable, needsChoice_iff s,
    h.fixed_applyAll, current_applyAll s⟩

/-- A decision between two changes of the text is gone after the second one, and
a position that does not exist changes nothing. -/
example :
    let s := run [.update "foo: x".toList, .choose "type".toList "fix".toList, .applyIssue 3]
    s.choices.type = some .fix ∧ (s.after .applyAll).choices.type = none ∧
      (s.after .applyAll).fixed = "fix: x".toList := by
  decide

end CommitLint.Session
