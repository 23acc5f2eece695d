import CommitLint.Proofs.Displacement
import CommitLint.Proofs.LogPaths
import CommitLint.Proofs.WriteBack

/-!
# One record for one line

Log messages show parts of texts that anyone may have written: the first line of a
message, and the type and the scope that its header names.  All of these are parts of
one line, and everything else in a message is fixed or a number; so no message holds a
line feed, and every record is a line of its own (`Event.newline_not_mem_messages`).

What is told to the observer with a log file is added at the end of the file, record by
record and in order, whatever the file held before.  The parts of texts that a record
shows need not be such that the encoding of the file takes them.  The first record that
it refuses ends the series; what has been added until then stays.  If the file cannot be
used at all, that shows at the first event, and nothing is written.

Main result: `observe_appends`.
-/

namespace CommitLint

open Text

namespace Text

/-- Lines that are each ended by a line feed are read back one by one; an empty line
follows the last one. -/
theorem lines_flatten {rs : List Text} (h : ∀ r ∈ rs, ∃ l, '\n' ∉ l ∧ r = l ++ ['\n']) :
    lines rs.flatten = rs.map List.dropLast ++ [[]] := by
  induction rs with
  | nil => rfl
  | cons r rs ih =>
      obtain ⟨l, hLine, rfl⟩ := h r List.mem_cons_self
      have hRest := ih fun r' hr' => h r' (List.mem_cons_of_mem _ hr')
      rw [List.flatten_cons, List.append_assoc, List.singleton_append,
        lines_append_feed hLine, hRest, List.map_cons, List.dropLast_concat, List.cons_append]

theorem newline_not_mem_decimal (n : Nat) : '\n' ∉ decimal n := not_mem_decimal rfl n

end Text

/-! ## Messages without line feeds -/

namespace Header

theorem type_isInfix {line found : Text} (h : (parse line).type = some found) :
    found <:+: line := by
  rw [type_parse, Option.map_eq_some_iff] at h
  obtain ⟨o, hOpening, rfl⟩ := h
  rw [eq_of_opening? hOpening, List.append_assoc]
  exact (List.prefix_append _ _).isInfix

theorem scope_isInfix {line s : Text} (h : (parse line).scope = some s) : s <:+: line := by
  cases hOpening : opening? line with
  | none =>
      rw [parse_of_no_opening hOpening] at h
      contradiction
  | some o =>
      rw [parse_of_opening hOpening] at h
      have hScope : o.scope = some s := h
      refine ⟨o.type ++ ['('], ')' :: o.rest, ?_⟩
      rw [eq_of_opening? hOpening, hScope]
      simp [bracketed]

end Header

/-- The type and the scope of a message are parts of lines. -/
structure Message.Inline (m : Message) : Prop where
  type : ∀ found, m.parts.type = some found → '\n' ∉ found
  scope : ∀ s, m.parts.scope = some s → '\n' ∉ s

theorem Message.inline_reading (t : Text) : (reading t).Inline where
  type _ h hMem := newline_not_mem_firstLine _ ((Header.type_isInfix h).subset hMem)
  scope _ h hMem := newline_not_mem_firstLine _ ((Header.scope_isInfix h).subset hMem)

namespace Rule

theorem newline_not_mem_inQuotes {t : Text} (h : '\n' ∉ t) : '\n' ∉ inQuotes t := by
  simp [inQuotes, h]

/-- What a rule says of a message is one line. -/
theorem newline_not_mem_message {m : Message} (hInline : m.Inline) {r : Rule} {i : Issue}
    (h : i ∈ r.check m) : '\n' ∉ i.message := by
  cases r with
  | headerPresent =>
      simp only [check, checkHeaderPresent] at h
      split at h
      · rw [List.mem_singleton.1 h]
        decide
      · contradiction
  | knownType =>
      have hListing : '\n' ∉ CommitType.listing := by decide
      simp only [check, checkKnownType] at h
      split at h
      · rw [List.mem_singleton.1 h]
        simp [hListing]
      · rename_i found hType
        have hQuoted := newline_not_mem_inQuotes (hInline.type found hType)
        split at h
        · contradiction
        · split at h
          · rw [List.mem_singleton.1 h]
            simp [hQuoted]
          · rw [List.mem_singleton.1 h]
            simp [hQuoted, hListing]
  | scopeFormat =>
      simp only [check, checkScopeFormat] at h
      split at h
      · contradiction
      · rename_i s hScope
        split at h
        · contradiction
        · rw [List.mem_singleton.1 h]
          simp [newline_not_mem_inQuotes (hInline.scope s hScope)]
  | colonPresent =>
      simp only [check, checkColonPresent] at h
      split at h
      · rw [List.mem_singleton.1 h]
        decide
      · contradiction
  | subjectPresent =>
      simp only [check, checkSubjectPresent] at h
      split at h
      · rw [List.mem_singleton.1 h]
        decide
      · contradiction
  | noFinalPeriod =>
      simp only [check, checkNoFinalPeriod] at h
      split at h
      · rw [List.mem_singleton.1 h]
        decide
      · contradiction
  | headerLength =>
      simp only [check, checkHeaderLength] at h
      split at h
      · rw [List.mem_singleton.1 h]
        simp [newline_not_mem_decimal]
      · split at h
        · rw [List.mem_singleton.1 h]
          simp [newline_not_mem_decimal]
        · contradiction
  | blankLine =>
      simp only [check, checkBlankLine] at h
      split at h
      · rw [List.mem_singleton.1 h]
        decide
      · contradiction
  | lineLength =>
      obtain ⟨k, l, -, hi⟩ := of_mem_longLines (show i ∈ longLines 0 m.lines from h)
      obtain ⟨s, limit, hEq⟩ : ∃ s limit, longLine s limit (0 + k) l.length = i := by
        simp only [longLine?] at hi
        split at hi
        · exact ⟨_, _, Option.some.inj hi⟩
        · split at hi
          · exact ⟨_, _, Option.some.inj hi⟩
          · contradiction
      rw [← hEq]
      simp [longLine, newline_not_mem_decimal]

end Rule

theorem newline_not_mem_of_mem_lint {t : Text} {i : Issue} (h : i ∈ lint t) :
    '\n' ∉ i.message := by
  cases hBlank : blank t with
  | true =>
      rw [lint_of_blank hBlank, List.mem_singleton] at h
      rw [h]
      decide
  | false =>
      rw [lint_eq_issues hBlank] at h
      obtain ⟨r, hCheck⟩ := Message.mem_issues.1 h
      exact Rule.newline_not_mem_message (Message.inline_reading t) hCheck

theorem newline_not_mem_summary (issues : List Issue) : '\n' ∉ summary issues := by
  simp [summary, newline_not_mem_decimal]

/-! ## Events and their records -/

namespace Log

/-- What an event says is so: the issues of a text that has been linted are those that
linting finds. -/
def Event.IsFaithful : Event → Prop
  | .linted text issues => issues = lint text
  | .fixed _ _ => True

/-- The number of records that are due to an event. -/
def Event.size : Event → Nat
  | .linted _ issues => 1 + issues.length
  | .fixed _ _ => 1

theorem Event.length_messages (e : Event) : e.messages.length = e.size := by
  cases e with
  | linted text issues => simp [messages, size, Nat.add_comm]
  | fixed before after => rfl

theorem newline_not_mem_issueMessage {i : Issue} (h : '\n' ∉ i.message) :
    '\n' ∉ issueMessage i := by
  have hCode : '\n' ∉ i.rule.code := by cases i.rule <;> decide
  have hSeverity : '\n' ∉ i.severity.name := by cases i.severity <;> decide
  -- Its defining equation is slow to derive, so the definition is opened without it.
  delta issueMessage
  simp [h, hCode, hSeverity]

/-- **No message of an event holds a line feed**, whatever its texts are. -/
theorem Event.newline_not_mem_messages {e : Event} (hFaithful : e.IsFaithful) {message : Text}
    (h : message ∈ e.messages) : '\n' ∉ message := by
  cases e with
  | linted text issues =>
      obtain rfl : issues = lint text := hFaithful
      rcases List.mem_cons.1 h with rfl | h
      · simp [newline_not_mem_firstLine, newline_not_mem_summary]
      · obtain ⟨i, hi, rfl⟩ := List.mem_map.1 h
        exact newline_not_mem_issueMessage (newline_not_mem_of_mem_lint hi)
  | fixed before after =>
      rw [List.mem_singleton.1 h]
      have hWords : '\n' ∉ (if before = after then "Nothing to fix in" else "Fixed").toList := by
        split <;> decide
      simp [newline_not_mem_firstLine, hWords]

/-- **The form of a record**: a stamp, a hyphen between spaces, and a message in one line. -/
theorem form_of_mem_recordsFrom {events : List Event} (hFaithful : ∀ e ∈ events, e.IsFaithful)
    {clock : Nat → Moment} {start : Nat} {r : Text}
    (h : r ∈ recordsFrom clock start (events.flatMap Event.messages)) :
    ∃ now : Moment, ∃ message, '\n' ∉ message ∧
      r = now.stamp ++ " - ".toList ++ message ++ ['\n'] := by
  obtain ⟨now, message, hMessage, rfl⟩ := exists_of_mem_recordsFrom h
  obtain ⟨e, he, hOwn⟩ := List.mem_flatMap.1 hMessage
  exact ⟨now, message, Event.newline_not_mem_messages (hFaithful e he) hOwn, rfl⟩

/-- Every record is a line of its own. -/
theorem line_of_mem_recordsFrom {events : List Event} (hFaithful : ∀ e ∈ events, e.IsFaithful)
    {clock : Nat → Moment} {start : Nat} {r : Text}
    (h : r ∈ recordsFrom clock start (events.flatMap Event.messages)) :
    ∃ l, '\n' ∉ l ∧ r = l ++ ['\n'] := by
  obtain ⟨now, message, hMessage, rfl⟩ := form_of_mem_recordsFrom hFaithful h
  exact ⟨_, by simp [now.newline_not_mem_stamp, hMessage], rfl⟩

end Log

/-! ## Series of events -/

namespace Command

open Step Files

variable {w : World} {p : Files.Path} {s s' : Shell}

/-- Make the directory of a log file, and tell its observer of events. -/
def observe (w : World) (p : Files.Path) (events : List Log.Event) : Step Unit := do
  makeParent p
  events.forM (logEvent w p)

/-- Telling of events one after the other adds their records one after the other. -/
theorem forM_logEvent (w : World) (p : Files.Path) (events : List Log.Event) :
    events.forM (logEvent w p) =
      (events.flatMap Log.Event.messages).forM (addRecord w p) := by
  induction events with
  | nil => rfl
  | cons e events ih =>
      rw [Step.forM_cons, ih, List.flatMap_cons]
      exact (List.forM_append).symm

/-- A log file that can be used: its directory can be made, and the file can then be
written to. -/
def CanLog (t : Tree) (p : Files.Path) : Prop :=
  ∃ made, t.makeDirectories p.absolute p.parent.parts.reverse = .ok made ∧
    made.IsWritable p.toText

/-- **A series of events** adds the records of all of them, in their order, up to the first
one that cannot be written. -/
theorem exec_observe_of_canLog (h : CanLog s.tree p) (w : World) (events : List Log.Event) :
    let records := Log.recordsFrom w.clock s.readings (events.flatMap Log.Event.messages)
    ∃ r s', exec (observe w p events) s = (r, s') ∧
      (r = .ok () ↔ ∀ record ∈ records, isLogged w record = true) ∧
      s.tree.Extended p.toText (records.takeWhile (isLogged w)).flatten s'.tree ∧
      (events ≠ [] → s'.tree.read p.toText = .ok (s'.tree.contentAt (placeOf p.toText))) := by
  obtain ⟨made, hMade, hWritable⟩ := h
  obtain ⟨r, tree, n, hRun, hAll, hExtended, hRead⟩ :=
    exec_addRecords_of_writable (s := { s with tree := made }) hWritable w
      (events.flatMap Log.Event.messages)
  refine ⟨r, { s with tree := tree, readings := n }, ?_, hAll,
    (Tree.Extended.of_files _ (Tree.makeDirectories_spec hMade).1).trans hExtended,
    fun hNe => hRead ?_⟩
  · rw [observe, exec_bind, exec_makeParent, hMade, forM_logEvent]
    exact hRun
  · obtain ⟨e, rest, rfl⟩ := List.exists_cons_of_ne_nil hNe
    simp [Log.messages_ne_nil]

/-- Where a log file cannot be used, nothing is written; that shows at the first event. -/
theorem files_exec_observe_of_not_canLog (hNot : ¬ CanLog s.tree p) (w : World)
    (events : List Log.Event) :
    (exec (observe w p events) s).2.tree.files = s.tree.files ∧
      (events ≠ [] → ∃ stop, (exec (observe w p events) s).1 = .error stop) := by
  rw [observe, exec_bind, exec_makeParent]
  cases hMade : s.tree.makeDirectories p.absolute p.parent.parts.reverse with
  | error f => exact ⟨rfl, fun _ => ⟨_, rfl⟩⟩
  | ok made =>
      have hFiles := (Tree.makeDirectories_spec hMade).1
      have hUnwritable : ¬ made.IsWritable p.toText := fun h => hNot ⟨made, hMade, h⟩
      cases events with
      | nil => exact ⟨hFiles, fun hNe => absurd rfl hNe⟩
      | cons e events =>
          obtain ⟨stop, s', hStop, hTree⟩ := exec_addRecords_of_not_writable
            (s := { s with tree := made }) hUnwritable w (Log.messages_ne_nil e)
          have hEvent : exec (logEvent w p e) { s with tree := made } = (.error stop, s') := hStop
          dsimp only
          rw [Step.forM_cons, exec_bind, hEvent]
          refine ⟨?_, fun _ => ⟨stop, rfl⟩⟩
          dsimp only
          rw [hTree]
          exact hFiles

/--
**The log only grows, by one line for each record**: whatever texts the events are about.
If the log file can be used, telling its observer of a series of events leaves in it what it
held before, followed by the records of the events in their order, each with the next reading
of the clock; no other file has changed.  These are all records exactly if the encoding of the
file takes each of them, and only then the telling succeeds; otherwise they are those before
the first one that is refused.  If the log file cannot be used, no file changes, and the first
event stops the series.  A lint event has one record and one more for each issue that linting
finds, a fix event has one; each is a stamp, a hyphen between spaces, a message without a
line feed, and a line feed.  So the lines that are added are records, one by one.
-/
theorem observe_appends (w : World) (p : Files.Path) {events : List Log.Event}
    (hFaithful : ∀ e ∈ events, e.IsFaithful) (s : Shell) :
    let records := Log.recordsFrom w.clock s.readings (events.flatMap Log.Event.messages)
    let added := records.takeWhile (isLogged w)
    (CanLog s.tree p → ∃ r s', exec (observe w p events) s = (r, s') ∧
      s'.tree.contentAt (placeOf p.toText) =
        s.tree.contentAt (placeOf p.toText) ++ added.flatten ∧
      (r = .ok () ↔ ∀ record ∈ records, isLogged w record = true) ∧
      (added = records ↔ ∀ record ∈ records, isLogged w record = true) ∧
      (events ≠ [] → s'.tree.read p.toText = .ok (s'.tree.contentAt (placeOf p.toText))) ∧
      ∀ q ≠ placeOf p.toText, s'.tree.files.lookup q = s.tree.files.lookup q) ∧
    (¬ CanLog s.tree p → (exec (observe w p events) s).2.tree.files = s.tree.files ∧
      (events ≠ [] → ∃ stop, (exec (observe w p events) s).1 = .error stop)) ∧
    (∀ e ∈ events, e.messages.length = e.size) ∧
    (∀ record ∈ records, ∃ now : Moment, ∃ message, '\n' ∉ message ∧
      record = now.stamp ++ " - ".toList ++ message ++ ['\n']) ∧
    lines added.flatten = added.map List.dropLast ++ [[]] := by
  intro records added
  refine ⟨fun hLog => ?_, fun hNot => files_exec_observe_of_not_canLog hNot w events, ?_, ?_, ?_⟩
  · obtain ⟨r, s', hRun, hAll, hExtended, hRead⟩ := exec_observe_of_canLog hLog w events
    exact ⟨r, s', hRun, hExtended.content, hAll, List.takeWhile_eq_self_iff, hRead,
      hExtended.others⟩
  · exact fun e _ => e.length_messages
  · exact fun record hRecord => Log.form_of_mem_recordsFrom hFaithful hRecord
  · refine lines_flatten fun record hAdded => ?_
    exact Log.line_of_mem_recordsFrom hFaithful ((List.takeWhile_subset _) hAdded)

/-- A message that holds a line which looks like a record. -/
theorem observe_appends_forged :
    let w := World.calm [] ⟨2024, 1, 2, 3, 4, 5⟩
    let p := Path.ofText "logs/lint.log".toList
    let tree := Tree.ofFiles [("logs/lint.log".toList, "old\n".toList)]
    let before := "FIX: x\n\n2024-01-02 03:04:05 - Linted 'x'".toList
    let after := "fix: x\n\n2024-01-02 03:04:05 - Linted 'x'".toList
    let events : List Log.Event := [.linted before (lint before), .fixed before after]
    (∀ e ∈ events, e.IsFaithful) ∧ CanLog tree p ∧
      ∃ s', exec (observe w p events) (Shell.start w tree) = (.ok (), s') ∧
        s'.tree.read p.toText = .ok ("old\n".toList ++
          "2024-01-02 03:04:05 - Linted 'FIX: x': 1 error(s), 0 warning(s)\n".toList ++
          "2024-01-02 03:04:05 -   [R2] error: Type \x22FIX\x22 should be lowercase\n".toList ++
          "2024-01-02 03:04:05 - Fixed 'FIX: x' -> 'fix: x'\n".toList) := by
  intro w p tree before after events
  have hFaithful : ∀ e ∈ events, e.IsFaithful := by
    intro e he
    rcases List.mem_cons.1 he with rfl | he
    · rfl
    · rw [List.mem_singleton.1 he]
      trivial
  have hFind : tree.find p.toText = .ok (placeOf p.toText, some (.file "old\n".toList)) :=
    Tree.read_eq_ok_iff.1 (by decide +kernel)
  have hLog : CanLog tree p := ⟨tree, rfl, _, hFind, fun hEq => nomatch hEq⟩
  have hTaken : (Log.recordsFrom w.clock 0 (events.flatMap Log.Event.messages)).all
      (isLogged w) = true := by decide +kernel
  obtain ⟨r, s', hRun, hContent, hAll, hAdded, hRead, -⟩ :=
    (observe_appends w p hFaithful (Shell.start w tree)).1 hLog
  have hTaken := List.all_eq_true.1 hTaken
  obtain rfl := hAll.2 hTaken
  refine ⟨hFaithful, hLog, s', hRun, ?_⟩
  rw [hRead (List.cons_ne_nil _ _), hContent, hAdded.2 hTaken]
  decide +kernel

/-- A byte in a message that is no UTF-8: the record that shows it is refused, and nothing is
logged. -/
theorem observe_suppresses :
    let byte := Char.ofNat 0x10F8FF
    let w : World := { World.calm [] ⟨2024, 1, 2, 3, 4, 5⟩ with
      codePoint := fun c => if c = byte then 0xDCFF else c.toNat }
    let p := Path.ofText "lint.log".toList
    let text := "feat: a".toList ++ [byte]
    let events : List Log.Event := [.linted text (lint text)]
    let ended := exec (observe w p events) (Shell.start w (Tree.ofFiles []))
    (∀ e ∈ events, e.IsFaithful) ∧ (events.flatMap Log.Event.messages).length = 1 ∧
      ended.1 ≠ .ok () ∧ ended.2.tree.read p.toText = .ok [] := by
  intro byte w p text events ended
  let messages := events.flatMap Log.Event.messages
  have hCount : messages.length = 1 := by decide +kernel
  have hRefused : (Log.recordsFrom w.clock 0 messages).all (isLogged w) = false := by
    decide +kernel
  obtain ⟨message, hMessages⟩ := List.length_eq_one_iff.1 hCount
  have hRecords : Log.recordsFrom w.clock 0 messages = [Log.record (w.clock 0) message] := by
    rw [hMessages, Log.recordsFrom_cons, Log.recordsFrom_nil]
  generalize Log.record (w.clock 0) message = record at hRecords
  rw [hRecords, List.all_cons, List.all_nil, Bool.and_true] at hRefused
  have hFind : (Tree.ofFiles []).find p.toText = .ok (placeOf p.toText, none) :=
    ok_of_toOption (by decide +kernel)
  have hLog : CanLog (Tree.ofFiles []) p := ⟨_, rfl, _, hFind, by simp⟩
  obtain ⟨r, s', hRun, hAll, hExtended, hRead⟩ :=
    exec_observe_of_canLog (s := Shell.start w (Tree.ofFiles [])) hLog w events
  have hContent : s'.tree.contentAt (placeOf p.toText) =
      (Tree.ofFiles []).contentAt (placeOf p.toText) ++
        ((Log.recordsFrom w.clock 0 messages).takeWhile (isLogged w)).flatten :=
    hExtended.content
  rw [hRecords, List.takeWhile_cons_of_neg (by simp [hRefused])] at hContent
  refine ⟨fun e he => ?_, hCount, fun hEnd => ?_, ?_⟩
  · rw [List.mem_singleton.1 he]
    rfl
  · have hTaken : ∀ r ∈ Log.recordsFrom w.clock 0 messages, isLogged w r = true :=
      hAll.1 ((congrArg Prod.fst hRun).symm.trans hEnd)
    rw [hRecords] at hTaken
    exact Bool.false_ne_true (hRefused.symm.trans (hTaken record (List.mem_singleton_self record)))
  · have hTree : ended.2.tree = s'.tree := by rw [show ended = (r, s') from hRun]
    rw [hTree, hRead (List.cons_ne_nil _ _), hContent]
    rfl

end Command

end CommitLint
