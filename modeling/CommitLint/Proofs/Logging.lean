import CommitLint.Proofs.Steps

/-!
# Adding records to the log

A record is added by itself: the clock is read, the log file is opened, and the record
is written at its end, unless the encoding of the file refuses it.  What one record does
(`exec_addRecord_of_writable`) carries over to a series by induction: the file grows by
the records before the first one that is refused, which ends the series
(`exec_addRecords_of_writable`).  If the file cannot be opened, that shows at the first
record.
-/

namespace CommitLint

namespace Log

/-- The records of some messages, each stamped with the next reading of a clock. -/
def recordsFrom (clock : Nat → Moment) (start : Nat) (messages : List Text) : List Text :=
  messages.mapIdx fun i message => record (clock (start + i)) message

@[simp] theorem recordsFrom_nil (clock : Nat → Moment) (start : Nat) :
    recordsFrom clock start [] = [] := rfl

@[simp] theorem recordsFrom_cons (clock : Nat → Moment) (start : Nat) (message : Text)
    (messages : List Text) :
    recordsFrom clock start (message :: messages) =
      record (clock start) message :: recordsFrom clock (start + 1) messages := by
  simp only [recordsFrom, List.mapIdx_cons, Nat.add_zero, Nat.add_assoc, Nat.add_comm 1]

theorem exists_of_mem_recordsFrom {clock : Nat → Moment} {start : Nat} {messages : List Text}
    {r : Text} (h : r ∈ recordsFrom clock start messages) :
    ∃ now, ∃ message ∈ messages, r = record now message := by
  obtain ⟨i, hi, rfl⟩ := List.mem_mapIdx.1 h
  exact ⟨_, _, List.getElem_mem hi, rfl⟩

theorem messages_ne_nil (e : Event) : e.messages ≠ [] := by
  cases e <;> exact List.cons_ne_nil _ _

end Log

namespace Command

open Step Files

variable {w : World} {p : Files.Path} {s : Shell} {path : Text}

/-- Whether a record can be written to a log file. -/
def isLogged (w : World) (record : Text) : Bool := (w.refusal? w.locale record).isNone

/-! ## Adding a text -/

/-- **Adding a text** to a file that can be written to leaves the file as it was, but for the
text at its end if its encoding takes it. -/
theorem exec_appendFile_of_writable (h : s.tree.IsWritable path) (w : World) (t : Text) :
    ∃ r tree, exec (appendFile w path t) s = (r, { s with tree := tree }) ∧
      (r = .ok () ↔ isLogged w t = true) ∧
      s.tree.Extended path (if isLogged w t then t else []) tree ∧
      tree.IsWritable path ∧ tree.read path = .ok (tree.contentAt (placeOf path)) := by
  obtain ⟨opened, hOpen⟩ : ∃ opened, s.tree.append path [] = .ok opened := ⟨_, h.append []⟩
  obtain ⟨hFirst, hWritable, hRead⟩ := Tree.append_spec hOpen
  rw [appendFile, exec_bind, exec_change, hOpen]
  dsimp only
  rw [exec_writeOn]
  unfold isLogged
  cases hRefused : w.refusal? w.locale t with
  | some why =>
      refine ⟨_, opened, rfl, by simp, ?_, hWritable, hRead⟩
      rw [Option.isNone_some, if_neg Bool.false_ne_true]
      exact hFirst
  | none =>
      obtain ⟨written, hWrite⟩ : ∃ written, opened.append path t = .ok written :=
        ⟨_, hWritable.append t⟩
      obtain ⟨hSecond, hStill, hReadAgain⟩ := Tree.append_spec hWrite
      dsimp only
      rw [exec_change, hWrite]
      refine ⟨_, written, rfl, by simp, ?_, hStill, hReadAgain⟩
      rw [Option.isNone_none, if_pos rfl]
      exact hFirst.trans hSecond

theorem exec_appendFile_of_not_writable (h : ¬ s.tree.IsWritable path) (w : World) (t : Text) :
    ∃ stop, exec (appendFile w path t) s = (.error stop, s) := by
  rw [appendFile, exec_bind, exec_change]
  cases hOpen : s.tree.append path [] with
  | error e => exact ⟨_, rfl⟩
  | ok opened => exact absurd (Tree.append_eq_ok_iff.1 hOpen).1 h

/-! ## Adding records -/

theorem exec_addRecord (w : World) (p : Files.Path) (message : Text) (s : Shell) :
    exec (addRecord w p message) s =
      exec (appendFile w p.toText (Log.record (w.clock s.readings) message))
        { s with readings := s.readings + 1 } := by
  rw [addRecord, exec_bind, exec_readClock]

/-- **One record** is added to a file that can be written to, if its encoding takes it. -/
theorem exec_addRecord_of_writable (h : s.tree.IsWritable p.toText) (w : World)
    (message : Text) :
    let record := Log.record (w.clock s.readings) message
    ∃ r tree, exec (addRecord w p message) s =
        (r, { s with tree := tree, readings := s.readings + 1 }) ∧
      (r = .ok () ↔ isLogged w record = true) ∧
      s.tree.Extended p.toText (if isLogged w record then record else []) tree ∧
      tree.IsWritable p.toText ∧
      tree.read p.toText = .ok (tree.contentAt (placeOf p.toText)) := by
  rw [exec_addRecord]
  exact exec_appendFile_of_writable (s := { s with readings := s.readings + 1 }) h w _

/-- **A series of records** is added up to the first one that the encoding refuses, and the
series comes to an end if there is none. -/
theorem exec_addRecords_of_writable (h : s.tree.IsWritable p.toText) (w : World)
    (messages : List Text) :
    let records := Log.recordsFrom w.clock s.readings messages
    ∃ r tree n, exec (messages.forM (addRecord w p)) s =
        (r, { s with tree := tree, readings := n }) ∧
      (r = .ok () ↔ ∀ record ∈ records, isLogged w record = true) ∧
      s.tree.Extended p.toText (records.takeWhile (isLogged w)).flatten tree ∧
      (messages ≠ [] → tree.read p.toText = .ok (tree.contentAt (placeOf p.toText))) := by
  induction messages generalizing s with
  | nil => exact ⟨_, s.tree, s.readings, rfl, by simp, .of_files _ rfl, fun hNe => absurd rfl hNe⟩
  | cons message messages ih =>
      obtain ⟨r, tree, hRun, hLogged, hFirst, hStill, hRead⟩ :=
        exec_addRecord_of_writable h w message
      dsimp only
      rw [Step.forM_cons, exec_bind, hRun, Log.recordsFrom_cons]
      cases hTaken : isLogged w (Log.record (w.clock s.readings) message) with
      | false =>
          rw [hTaken, if_neg Bool.false_ne_true] at hFirst
          rw [hTaken] at hLogged
          cases r with
          | ok u => exact absurd (hLogged.1 rfl) Bool.false_ne_true
          | error e =>
              refine ⟨_, tree, _, rfl, by simp [hTaken], ?_, fun _ => hRead⟩
              rw [List.takeWhile_cons_of_neg (by simp [hTaken])]
              exact hFirst
      | true =>
          rw [hTaken, if_pos rfl] at hFirst
          obtain rfl := hLogged.2 hTaken
          obtain ⟨r', tree', n, hRest, hAll, hMore, hReadRest⟩ :=
            ih (s := { s with tree := tree, readings := s.readings + 1 }) hStill
          refine ⟨r', tree', n, hRest, by simp [hAll, hTaken], ?_, fun _ => ?_⟩
          · rw [List.takeWhile_cons_of_pos hTaken, List.flatten_cons]
            exact hFirst.trans hMore
          · cases messages with
            | nil =>
                obtain rfl : tree = tree' := (Shell.mk.inj (Prod.mk.inj hRest).2).1
                exact hRead
            | cons message' messages' => exact hReadRest (List.cons_ne_nil _ _)

/-- Where the file cannot be opened, a series of records stops at its first one and writes
nothing. -/
theorem exec_addRecords_of_not_writable (h : ¬ s.tree.IsWritable p.toText) (w : World)
    {messages : List Text} (hNe : messages ≠ []) :
    ∃ stop s', exec (messages.forM (addRecord w p)) s = (.error stop, s') ∧
      s'.tree = s.tree := by
  obtain ⟨message, rest, rfl⟩ := List.exists_cons_of_ne_nil hNe
  obtain ⟨stop, hStop⟩ := exec_appendFile_of_not_writable
    (s := { s with readings := s.readings + 1 }) h w
    (Log.record (w.clock s.readings) message)
  refine ⟨stop, { s with readings := s.readings + 1 }, ?_, rfl⟩
  rw [Step.forM_cons, exec_bind, exec_addRecord, hStop]

/-- An event that has been logged has left a file, and nothing else has changed but the
clock. -/
theorem exec_logEvent_eq_ok {e : Log.Event} {s' : Shell}
    (h : exec (logEvent w p e) s = (.ok (), s')) :
    (∃ tree n, s' = { s with tree := tree, readings := n }) ∧
      ∃ content, s'.tree.read p.toText = .ok content := by
  unfold logEvent at h
  by_cases hWritable : s.tree.IsWritable p.toText
  · obtain ⟨r, tree, n, hRun, -, -, hRead⟩ := exec_addRecords_of_writable hWritable w e.messages
    rw [hRun, Prod.mk.injEq] at h
    rw [← h.2]
    exact ⟨⟨tree, n, rfl⟩, _, hRead (Log.messages_ne_nil e)⟩
  · obtain ⟨stop, t, hStop, -⟩ :=
      exec_addRecords_of_not_writable hWritable w (Log.messages_ne_nil e)
    rw [hStop, Prod.mk.injEq] at h
    cases h.1

end Command

end CommitLint
