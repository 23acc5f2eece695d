import CommitLint.Config.Lemmas
import CommitLint.Proofs.History
import CommitLint.Proofs.IssueList
import CommitLint.Proofs.LineEnds
import CommitLint.Proofs.Traces

/-!
# Writing a message back

A run that writes the repaired message of a file back leaves in the file what
repairing its text gives, and a line feed.  A later run reads this text again: it
holds no carriage return, so that it is read as it stands, and trimming takes off
the line feed.  Therefore the later run finds the issues that the first one showed
after its repair, and comes to the same exit status.

A log file that has been written once can be written again (`LogReady`): its
directory is there, and it is a file.

Main result: `writeBack_stable`.
-/

namespace CommitLint.Command

open Text Step

variable {w : World} {inv : Arguments.Invocation} {c : Config} {p : Files.Path}
  {log : Option Files.Path}

/-- A command line that asks for the message of a file to be linted, and for no
information instead. -/
structure LintsFile (inv : Arguments.Invocation) (p : Files.Path) : Prop where
  help : inv.help = false
  version : inv.version = false
  configList : inv.configList = false
  configDir : inv.configDir = false
  message : inv.message = none
  file : inv.messageFile = some p
  notDash : isDash p = false

/-- Such a run lints the message with the settings that it has loaded. -/
theorem course_of_lintsFile (hLints : LintsFile inv p) {tree : Files.Tree} {args : List Text}
    (hParse : Arguments.parse tree args = .ok inv) (hLoads : Loads w tree inv.path) :
    course w tree args = exec (lintMessage w inv (settingsOf w tree inv))
      (afterLoading w inv (Shell.start w tree)) := by
  rw [course_eq hParse]
  exact exec_perform_of_loads (s := Shell.start w tree) hLoads hLints.help hLints.version
    hLints.configList hLints.configDir

/-- A run that finishes has loaded its settings. -/
theorem loads_of_course_eq_ok (hLints : LintsFile inv p) {tree : Files.Tree} {args : List Text}
    (hParse : Arguments.parse tree args = .ok inv) {failed : Bool} {t : Shell}
    (h : course w tree args = (.ok failed, t)) : Loads w tree inv.path := by
  rw [course_eq hParse, perform, if_neg (by simp [hLints.help]),
    if_neg (by simp [hLints.version])] at h
  obtain ⟨config, s', hLoaded, -⟩ := exec_bind_eq_ok h
  exact (exec_loadSettings_eq_ok hLoaded).1

/-! ## The log file -/

/-- A log file that can be written: its directory has been made, and it is a file. -/
def LogReady (t : Files.Tree) (log : Option Files.Path) : Prop :=
  ∀ q ∈ log, t.makeDirectories q.absolute q.parent.parts.reverse = .ok t ∧
    ∃ content, t.look q.toText = some (.file content)

theorem LogReady.of_changedAt {t t' : Files.Tree} {places : Files.Place → Prop}
    (h : LogReady t log) (hChanged : t.ChangedAt places t') : LogReady t' log := by
  intro q hq
  obtain ⟨hMade, content, hLook⟩ := h q hq
  refine ⟨hChanged.directories.makeDirectories hMade, ?_⟩
  rw [Files.Tree.look_eq_some_iff] at hLook
  have hThere : (t.files.lookup (Files.placeOf q.toText)).isSome := by
    rw [Files.Tree.get?_eq_file_iff.1 (Files.Tree.find_eq_ok hLook).2.symm]
    rfl
  obtain ⟨now, hNow⟩ := Option.isSome_iff_exists.1 (hChanged.kept _ hThere)
  refine ⟨now, Files.Tree.look_eq_some_iff.2 ?_⟩
  rw [hChanged.directories.find hLook, Files.Tree.get?_eq_file_iff.2 hNow]

theorem exec_openLog_eq_ok {s s' : Shell} (h : exec (openLog log) s = (.ok (), s')) :
    s'.console = s.console ∧ s'.tree.files = s.tree.files ∧
      ∀ q ∈ log, s'.tree.makeDirectories q.absolute q.parent.parts.reverse = .ok s'.tree := by
  unfold openLog at h
  split at h
  · rename_i q
    rw [exec_makeParent] at h
    split at h
    · rename_i tree hMade
      rw [Prod.mk.injEq] at h
      rw [← h.2]
      refine ⟨rfl, (Files.Tree.makeDirectories_spec hMade).1, fun q' hq' => ?_⟩
      cases hq'
      exact (Files.Tree.KeepsDirectories.refl tree).makeDirectories hMade
    · simp at h
  · rw [exec_pure, Prod.mk.injEq] at h
    rw [← h.2]
    exact ⟨rfl, rfl, fun q hq => by simp at hq⟩

theorem exec_openLog_of_ready {s : Shell} (h : LogReady s.tree log) :
    exec (openLog log) s = (.ok (), s) := by
  unfold openLog
  split
  · rename_i q
    rw [exec_makeParent, (h q rfl).1]
  · rfl

/-- After an event has been told of, the log file is there. -/
theorem exec_announce_eq_ok {e : Log.Event} {s s' : Shell}
    (h : exec (announce w log e) s = (.ok (), s')) :
    s'.console = s.console ++ [e.announcement] ∧
      ∀ q ∈ log, ∃ content, s'.tree.look q.toText = some (.file content) := by
  obtain ⟨_, s1, hShown, h⟩ := exec_bind_eq_ok h
  obtain ⟨-, rfl⟩ := exec_display_eq_ok hShown
  cases log with
  | none =>
      rw [exec_pure, Prod.mk.injEq] at h
      rw [← h.2]
      exact ⟨rfl, fun q hq => by simp at hq⟩
  | some q =>
      obtain ⟨⟨tree, n, rfl⟩, content, hRead⟩ := exec_logEvent_eq_ok h
      refine ⟨rfl, fun q' hq' => ?_⟩
      cases hq'
      exact ⟨content, Files.Tree.look_eq_some_iff.2 (Files.Tree.read_eq_ok_iff.1 hRead)⟩

/-- An event is told of if the console can show it, and if its records can be written to a log
file that is ready. -/
theorem exec_announce_of_ready {e : Log.Event} {s : Shell} (h : LogReady s.tree log)
    (hShown : w.console e.announcement = none)
    (hLogged : log ≠ none → ∀ message ∈ e.messages, ∀ now,
      isLogged w (Log.record now message) = true) :
    ∃ s', exec (announce w log e) s = (.ok (), s') := by
  unfold announce
  rw [exec_bind_of_ok (exec_display_of_shown hShown s)]
  cases log with
  | none => exact ⟨_, rfl⟩
  | some q =>
      obtain ⟨-, content, hLook⟩ := h q rfl
      have hWritable : s.tree.IsWritable q.toText :=
        ⟨_, Files.Tree.look_eq_some_iff.1 hLook, by simp⟩
      obtain ⟨r, tree, n, hRun, hAll, -, -⟩ := exec_addRecords_of_writable
        (s := { s with console := s.console ++ [e.announcement] }) hWritable w e.messages
      have hOk : r = .ok () := by
        refine hAll.2 fun record hRecord => ?_
        obtain ⟨now, message, hMessage, rfl⟩ := Log.exists_of_mem_recordsFrom hRecord
        exact hLogged (Option.some_ne_none q) message hMessage now
      rw [hOk] at hRun
      exact ⟨_, hRun⟩

/-! ## Linting a file -/

theorem exec_readMessage (hLints : LintsFile inv p) (s : Shell) :
    exec (readMessage inv) s =
      match s.tree.read p.toText with
      | .ok content => (.ok (unifyLineEnds content), s)
      | .error e => (.error (.failure (.files e p.toText)), s) := by
  unfold readMessage
  rw [hLints.message, hLints.file]
  dsimp only
  rw [if_neg (by simp [hLints.notDash])]
  exact exec_readFile _ _

/-- What the console shows of a text that has been linted. -/
def shownOf (t : Text) : List Report.Item :=
  [(Log.Event.linted (trim t) (lint t)).announcement, Report.issues (lint t)]

/-- **Linting a file**, up to the question whether to repair: the file has been read,
its issues have been shown, and the log file is ready from now on. -/
theorem exec_lintMessage_eq_ok (hLints : LintsFile inv p) {s t : Shell}
    (hClock : s.readings = 0) {failed : Bool} (h : exec (lintMessage w inv c) s = (.ok failed, t)) :
    ∃ content s', s.tree.files.lookup (Files.placeOf p.toText) = some content ∧
      s'.console = s.console ++ shownOf (unifyLineEnds content) ∧
      LogReady s'.tree (logFileWith w inv c) ∧
      exec (repairAsked w inv c (logFileWith w inv c)
          (Session.empty.update (unifyLineEnds content)) >>=
        fun s => pure (fails c.strict s.issues)) s' = (.ok failed, t) := by
  rw [lintMessage_eq] at h
  obtain ⟨log, s0, hPath, h⟩ := exec_bind_eq_ok h
  obtain ⟨r, notices, n, hRun, hLog, -⟩ := exec_logPath w inv c hClock
  rw [hRun, Prod.mk.injEq] at hPath
  obtain ⟨hResult, rfl⟩ := hPath
  obtain rfl := hLog log hResult
  generalize logFileWith w inv c = log at h ⊢
  obtain ⟨_, s1, hOpen, h⟩ := exec_bind_eq_ok h
  obtain ⟨hSame, hFiles, hMade⟩ := exec_openLog_eq_ok hOpen
  obtain ⟨text, s2, hRead, h⟩ := exec_bind_eq_ok h
  rw [exec_readMessage hLints] at hRead
  split at hRead
  · rename_i content hContent
    rw [Prod.mk.injEq, Except.ok.injEq] at hRead
    obtain ⟨rfl, rfl⟩ := hRead
    have hLookup : s.tree.files.lookup (Files.placeOf p.toText) = some content := by
      rw [← hFiles]
      exact Files.Tree.lookup_of_read hContent
    obtain ⟨_, s3, hTold, h⟩ := exec_bind_eq_ok h
    obtain ⟨hConsole, hLogged⟩ := exec_announce_eq_ok hTold
    have hChanged := (touches_announce w log _).changedAt hTold
    obtain ⟨_, s4, hShown, h⟩ := exec_bind_eq_ok h
    obtain ⟨-, rfl⟩ := exec_display_eq_ok hShown
    refine ⟨content, _, hLookup, ?_, ?_, h⟩
    · dsimp only
      rw [hConsole, hSame, List.append_assoc, Session.update_eq, lint_trim]
      rfl
    · have hOpened : ∀ q ∈ log, s3.tree.makeDirectories q.absolute q.parent.parts.reverse =
          .ok s3.tree := fun q hq => hChanged.directories.makeDirectories (hMade q hq)
      exact fun q hq => ⟨hOpened q hq, hLogged q hq⟩
  · simp at hRead

/-- The surroundings take all that a run shows, tells and logs of a text that it lints. -/
structure Takes (w : World) (inv : Arguments.Invocation) (c : Config) (t : Text) : Prop where
  told : TellsLogPath w inv c
  shown : ∀ item ∈ shownOf t, w.console item = none
  logged : logFileWith w inv c ≠ none →
    ∀ message ∈ (Log.Event.linted (trim t) (lint t)).messages, ∀ now,
      isLogged w (Log.record now message) = true

/-- A file can be linted whenever it can be read, the log file is ready, and the surroundings
take what there is to show and to log. -/
theorem exec_lintMessage_of_ready (hLints : LintsFile inv p) {s : Shell}
    (hClock : s.readings = 0) {content : Text} (hRead : s.tree.read p.toText = .ok content)
    (hReady : LogReady s.tree (logFileWith w inv c)) (hTakes : Takes w inv c (unifyLineEnds content)) :
    ∃ s', exec (lintMessage w inv c) s =
      exec (repairAsked w inv c (logFileWith w inv c)
          (Session.empty.update (unifyLineEnds content)) >>=
        fun s => pure (fails c.strict s.issues)) s' := by
  obtain ⟨hTold, hShown, hLogged⟩ := hTakes
  obtain ⟨r, notices, n, hPath, -, hLog⟩ := exec_logPath w inv c hClock
  rw [hLog hTold] at hPath
  rw [lintMessage_eq, exec_bind_of_ok hPath]
  generalize logFileWith w inv c = log at hReady hLogged ⊢
  have hOpen := exec_openLog_of_ready (s := { s with notices := notices, readings := n }) hReady
  have hText : exec (readMessage inv) { s with notices := notices, readings := n } =
      (.ok (unifyLineEnds content), { s with notices := notices, readings := n }) := by
    rw [exec_readMessage hLints]
    dsimp only
    rw [hRead]
  rw [exec_bind_of_ok hOpen, exec_bind_of_ok hText]
  generalize unifyLineEnds content = t at hShown hLogged ⊢
  dsimp only
  rw [show (Session.empty.update t).issues = lint t by rw [Session.update_eq, lint_trim]]
  obtain ⟨s3, hAnnounced⟩ := exec_announce_of_ready (w := w)
    (e := .linted (Session.empty.update t).current (lint t))
    (s := { s with notices := notices, readings := n }) hReady
    (hShown _ List.mem_cons_self) hLogged
  rw [exec_bind_of_ok hAnnounced, exec_bind_of_ok (exec_display_of_shown
    (hShown _ (List.mem_cons_of_mem _ List.mem_cons_self)) s3)]
  exact ⟨_, rfl⟩

/-! ## Decisions -/

/-- The decisions that a run repairs a text with: those of the settings if the run asks
no questions, and some type wherever one is needed if it does. -/
structure Decided (inv : Arguments.Invocation) (c : Config) (t : Text) (made : Choices) :
    Prop where
  batch : inv.interactive = false → made = ⟨c.defaultType⟩
  asked : inv.interactive = true → requiresChoice (lint t) = true → made.type ≠ none

theorem choices_withDefault (c : Config) (t : Text) :
    (withDefault c (Session.empty.update t)).choices = ⟨c.defaultType⟩ ∧
      (withDefault c (Session.empty.update t)).current = trim t ∧
      (withDefault c (Session.empty.update t)).issues = lint (trim t) := by
  unfold withDefault
  cases c.defaultType with
  | none => exact ⟨rfl, rfl, rfl⟩
  | some k => exact ⟨rfl, rfl, rfl⟩

/-- Whoever has been asked for anything has decided on a type. -/
theorem exec_askChoices_eq_ok {kinds : List ChoiceKind} {s s' : Session} {sh sh' : Shell}
    (h : exec (askChoices w s kinds) sh = (.ok s', sh')) :
    s'.current = s.current ∧ s'.issues = s.issues ∧
      (s.choices.type ≠ none ∨ kinds ≠ [] → s'.choices.type ≠ none) := by
  induction kinds generalizing s sh with
  | nil =>
      rw [askChoices, exec_pure, Prod.mk.injEq, Except.ok.injEq] at h
      rw [← h.1]
      exact ⟨rfl, rfl, fun hSome => hSome.resolve_right fun hNe => hNe rfl⟩
  | cons kind kinds ih =>
      rw [askChoices] at h
      obtain ⟨_, sh1, -, h⟩ := exec_bind_eq_ok h
      rw [exec_bind, exec_get] at h
      dsimp only at h
      generalize askType (inputLines sh1.input) = asked at h
      obtain ⟨printed, answer⟩ := asked
      obtain ⟨_, sh2, -, h⟩ := exec_bind_eq_ok h
      cases answer with
      | none => simp at h
      | some found =>
          obtain ⟨k, left⟩ := found
          dsimp only at h
          rw [exec_bind, exec_modify] at h
          obtain ⟨hCurrent, hIssues, hMade⟩ := ih h
          refine ⟨hCurrent, hIssues, fun _ => hMade (Or.inl ?_)⟩
          cases kind
          exact Option.some_ne_none k

theorem exec_warnLeft_eq_ok {s s' : Session} {sh sh' : Shell}
    (h : exec (warnLeft w s) sh = (.ok s', sh')) : s' = s := by
  unfold warnLeft at h
  split at h
  · obtain ⟨_, sh1, -, h⟩ := exec_bind_eq_ok h
    exact (Except.ok.inj (congrArg Prod.fst h)).symm
  · exact (Except.ok.inj (congrArg Prod.fst h)).symm

/-- The decisions that have been made when it comes to the repair, and what the repair
gives. -/
theorem exec_settle_eq_ok {t : Text} {s : Session} {sh sh' : Shell}
    (h : exec (settle w inv c (Session.empty.update t)) sh = (.ok s, sh')) :
    Decided inv c t s.choices ∧ s.applyAll.fixed = fixAll s.choices t ∧
      s.applyAll.issues = lint (fixAll s.choices t) := by
  obtain ⟨hChoices, hCurrent, hIssues⟩ := choices_withDefault c t
  have hNeeds : requiresChoice (lint t) = true →
      (withDefault c (Session.empty.update t)).required ≠ [] := by
    intro hRequires
    rw [← Session.needsChoice_iff, Session.needsChoice, hIssues, lint_trim]
    exact hRequires
  rw [settle_eq] at h
  obtain ⟨s', sh1, hAsked, h⟩ := exec_bind_eq_ok h
  obtain rfl : s' = s := (exec_warnLeft_eq_ok h).symm
  have hKept : Decided inv c t s'.choices ∧ s'.current = trim t ∧ s'.issues = lint (trim t) := by
    unfold askLeft at hAsked
    split at hAsked
    · rename_i hLeft
      rw [Bool.and_eq_true] at hLeft
      obtain ⟨hSame, hFound, hMade⟩ := exec_askChoices_eq_ok hAsked
      refine ⟨⟨fun hBatch => ?_, fun _ hRequires => hMade (Or.inr (hNeeds hRequires))⟩,
        hSame.trans hCurrent, hFound.trans hIssues⟩
      rw [hBatch] at hLeft
      cases hLeft.1
    · rename_i hDone
      rw [exec_pure, Prod.mk.injEq, Except.ok.injEq] at hAsked
      rw [← hAsked.1]
      refine ⟨⟨fun _ => hChoices, fun hInteractive hRequires => ?_⟩, hCurrent, hIssues⟩
      obtain ⟨kind, hKind⟩ := List.exists_mem_of_ne_nil _ (hNeeds hRequires)
      have hAll : (withDefault c (Session.empty.update t)).hasAllChoices = true := by
        simpa [hInteractive] using hDone
      have hMade := List.all_eq_true.1 hAll kind hKind
      cases kind
      exact Option.isSome_iff_ne_none.1 hMade
  obtain ⟨hDecided, hSame, hFound⟩ := hKept
  have hFixed : s'.applyAll.fixed = fixAll s'.choices t := by
    rw [Session.applyAll, hSame, hFound]
    rfl
  refine ⟨hDecided, hFixed, ?_⟩
  rw [← hFixed, ← lint_trim]
  rfl

/-! ## Repairing and writing back -/

theorem exec_reportRepair_eq_ok {before : Text} {s : Session} {sh sh' : Shell}
    (h : exec (reportRepair w log before s) sh = (.ok (), sh')) :
    ∃ shown, sh'.console = shown ++
      [.markup "\n[bold]After fixing:[/bold]".toList, Report.issues s.issues] := by
  unfold reportRepair at h
  obtain ⟨_, sh1, -, h⟩ := exec_bind_eq_ok h
  obtain ⟨_, sh2, hMessage, h⟩ := exec_bind_eq_ok h
  obtain ⟨-, rfl⟩ := exec_display_eq_ok hMessage
  obtain ⟨_, sh3, hTitle, h⟩ := exec_bind_eq_ok h
  obtain ⟨-, rfl⟩ := exec_display_eq_ok hTitle
  obtain ⟨-, rfl⟩ := exec_display_eq_ok h
  exact ⟨sh1.console ++ [Report.fixedMessage s.fixed], by simp⟩

/-- What is left in a file that a text has been written to: the text, or nothing if it cannot
be written. -/
def leftBy (w : World) (t : Text) : Text := if (w.refusal? .utf8 t).isNone then t else []

/-- **Writing a file**: if it cannot be opened, nothing has happened; if it can, its old content
is gone, whether the text can be written or not. -/
theorem exec_writeFile (w : World) (path t : Text) (s : Shell) :
    (∃ e, exec (writeFile w path t) s = (.error (.failure (.files e path)), s)) ∨
      ∃ tree, tree.read path = .ok (leftBy w t) ∧
        exec (writeFile w path t) s =
          (match w.refusal? .utf8 t with
            | none => .ok ()
            | some why => .error (.failure (.encoding why)), { s with tree := tree }) := by
  rw [writeFile, exec_bind, exec_change]
  cases hOpen : s.tree.write path [] with
  | error e => exact Or.inl ⟨e, rfl⟩
  | ok opened =>
      have hEmpty : opened.read path = .ok [] := Files.Tree.read_modify hOpen
      dsimp only
      rw [exec_writeOn]
      unfold leftBy
      cases hRefused : w.refusal? .utf8 t with
      | some why =>
          refine Or.inr ⟨opened, ?_, rfl⟩
          rw [hEmpty, Option.isNone_some, if_neg Bool.false_ne_true]
      | none =>
          obtain ⟨written, hAppend⟩ : ∃ written, opened.append path t = .ok written :=
            ⟨_, (Files.Tree.isWritable_of_write hOpen).append t⟩
          dsimp only
          rw [exec_change, hAppend]
          refine Or.inr ⟨written, ?_, rfl⟩
          rw [Files.Tree.read_modify hAppend, Files.Tree.lookup_of_read hEmpty, Option.isNone_none,
            if_pos rfl]
          rfl

theorem exec_storeFixed_eq_ok (hLints : LintsFile inv p) (hWrite : inv.write = true)
    {fixed : Text} {s s' : Shell} (h : exec (storeFixed w inv fixed) s = (.ok (), s')) :
    s'.tree.read p.toText = .ok (fixed ++ ['\n']) ∧ ∃ more, s'.console = s.console ++ more := by
  unfold storeFixed writeBack at h
  rw [if_pos hWrite, hLints.file] at h
  dsimp only at h
  rw [if_neg (by simp [hLints.notDash])] at h
  obtain ⟨_, s1, hWritten, h⟩ := exec_bind_eq_ok h
  obtain ⟨-, rfl⟩ := exec_display_eq_ok h
  rcases exec_writeFile w p.toText (fixed ++ ['\n']) s with ⟨e, hStop⟩ | ⟨tree, hRead, hRun⟩
  · simp [hStop] at hWritten
  · unfold leftBy at hRead
    rw [hRun, Prod.mk.injEq] at hWritten
    cases hRefused : w.refusal? .utf8 (fixed ++ ['\n']) with
    | some why => simp [hRefused] at hWritten
    | none =>
        rw [hRefused, Option.isNone_none, if_pos rfl] at hRead
        rw [← hWritten.2]
        exact ⟨hRead, _, rfl⟩

theorem exec_shareFixed_eq_ok {fixed : Text} {s s' : Shell}
    (h : exec (shareFixed w inv fixed) s = (.ok (), s')) :
    s'.tree = s.tree ∧ ∃ more, s'.console = s.console ++ more := by
  refine ⟨(still_shareFixed w inv fixed).tree_eq h, ?_⟩
  unfold shareFixed copyFixed at h
  split at h
  · obtain ⟨failure, s1, hCopied, h⟩ := exec_bind_eq_ok h
    obtain ⟨-, rfl⟩ := exec_display_eq_ok h
    rw [exec_copy] at hCopied
    split at hCopied
    · rw [← (Prod.mk.inj hCopied).2]
      exact ⟨_, rfl⟩
    · rw [← (Prod.mk.inj hCopied).2]
      exact ⟨_, rfl⟩
    · simp at hCopied
  · rw [← (Prod.mk.inj h).2]
    exact ⟨[], by simp⟩

/-- **Repairing and writing back**: the file holds the repaired text, and its issues have
been shown after the repair. -/
theorem exec_repair_eq_ok (hLints : LintsFile inv p) (hWrite : inv.write = true)
    {t : Text} {s : Session} {sh sh' : Shell}
    (h : exec (repair w inv c log (Session.empty.update t)) sh = (.ok s, sh')) :
    ∃ made, Decided inv c t made ∧ s.issues = lint (fixAll made t) ∧
      sh'.tree.read p.toText = .ok (fixAll made t ++ ['\n']) ∧
      ∃ shown more, sh'.console = shown ++
        [.markup "\n[bold]After fixing:[/bold]".toList,
          Report.issues (lint (fixAll made t))] ++ more := by
  rw [repair_eq] at h
  obtain ⟨s1, sh1, hSettled, h⟩ := exec_bind_eq_ok h
  obtain ⟨hDecided, hFixed, hIssues⟩ := exec_settle_eq_ok hSettled
  obtain ⟨_, sh2, hReported, h⟩ := exec_bind_eq_ok h
  obtain ⟨shown, hShown⟩ := exec_reportRepair_eq_ok hReported
  obtain ⟨_, sh4, hHanded, h⟩ := exec_bind_eq_ok h
  obtain ⟨_, sh3, hStored, hShared⟩ := exec_bind_eq_ok hHanded
  obtain ⟨hRead, more, hMore⟩ := exec_storeFixed_eq_ok hLints hWrite hStored
  obtain ⟨hTree, last, hLast⟩ := exec_shareFixed_eq_ok hShared
  rw [exec_pure, Prod.mk.injEq, Except.ok.injEq] at h
  obtain ⟨rfl, rfl⟩ := h
  refine ⟨s1.choices, hDecided, hIssues, ?_, shown, more ++ last, ?_⟩
  · rw [hTree, ← hFixed]
    exact hRead
  · rw [hLast, hMore, hShown, hIssues]
    simp

/-! ## Runs -/

/-- The type that a run puts in where one is missing: that of the option, or else that
of the configuration file, or else that of the environment. -/
def chosenType (w : World) (tree : Files.Tree) (inv : Arguments.Invocation) : Option CommitType :=
  inv.type.or ((Config.typeIn (Config.fileSettings w.toHost tree inv.path)).getD
    ((Config.typeIn (Config.ofEnvironment w.environment)).getD none))

theorem defaultType_settingsOf (w : World) (tree : Files.Tree) (inv : Arguments.Invocation) :
    (settingsOf w tree inv).defaultType = chosenType w tree inv := by
  rw [chosenType, ← Config.defaultType_load]
  rfl

theorem fails_iff (strict : Bool) (issues : List Issue) :
    fails strict issues = true ↔ ∃ i ∈ issues, strict = true ∨ i.isError = true := by
  unfold fails
  cases strict with
  | true => simp [List.eq_nil_iff_forall_not_mem]
  | false => simp

/-- A text that has been written with a line feed is read and linted as it was. -/
theorem lint_append_newline (t : Text) : lint (t ++ ['\n']) = lint t := by
  rw [← lint_trim, trim_append_blank t (by decide), lint_trim]

/-- What a run that writes back has come to when it finishes. -/
theorem course_decided (hLints : LintsFile inv p) (hWrite : inv.write = true)
    {tree : Files.Tree} {args : List Text} (hParse : Arguments.parse tree args = .ok inv)
    {failed : Bool} {t : Shell} (h : course w tree args = (.ok failed, t)) :
    ∃ content made, tree.files.lookup (Files.placeOf p.toText) = some content ∧
      Decided inv (settingsOf w tree inv) (unifyLineEnds content) made ∧
      let fixed := fixAll made (unifyLineEnds content)
      failed = fails (settingsOf w tree inv).strict (lint fixed) ∧
      t.tree.read p.toText = .ok (fixed ++ ['\n']) ∧
      LogReady t.tree (logFileWith w inv (settingsOf w tree inv)) ∧
      ∃ shown more, t.console = shown ++
        [.markup "\n[bold]After fixing:[/bold]".toList, Report.issues (lint fixed)] ++ more := by
  rw [course_of_lintsFile hLints hParse (loads_of_course_eq_ok hLints hParse h)] at h
  obtain ⟨content, s', hContent, -, hReady, hRest⟩ := exec_lintMessage_eq_ok hLints rfl h
  obtain ⟨s, t', hRepaired, hEnd⟩ := exec_bind_eq_ok hRest
  rw [exec_pure, Prod.mk.injEq, Except.ok.injEq] at hEnd
  obtain ⟨rfl, rfl⟩ := hEnd
  rw [repairAsked, if_pos (by simp [hWrite])] at hRepaired
  have hChanged := (touches_repair w inv _ _ _).changedAt hRepaired
  obtain ⟨made, hDecided, hIssues, hRead, hShown⟩ := exec_repair_eq_ok hLints hWrite hRepaired
  exact ⟨content, made, hContent, hDecided, by rw [hIssues], hRead, hReady.of_changedAt hChanged,
    hShown⟩

/-- Without questions the type is the chosen one. -/
theorem course_eq_ok (hLints : LintsFile inv p) (hWrite : inv.write = true)
    (hBatch : inv.interactive = false) {tree : Files.Tree} {args : List Text}
    (hParse : Arguments.parse tree args = .ok inv) {failed : Bool} {t : Shell}
    (h : course w tree args = (.ok failed, t)) :
    ∃ content, tree.files.lookup (Files.placeOf p.toText) = some content ∧
      let fixed := fixAll ⟨chosenType w tree inv⟩ (unifyLineEnds content)
      failed = fails (settingsOf w tree inv).strict (lint fixed) ∧
      t.tree.read p.toText = .ok (fixed ++ ['\n']) ∧
      LogReady t.tree (logFileWith w inv (settingsOf w tree inv)) ∧
      ∃ shown more, t.console = shown ++
        [.markup "\n[bold]After fixing:[/bold]".toList, Report.issues (lint fixed)] ++ more := by
  obtain ⟨content, made, hContent, hDecided, hRest⟩ := course_decided hLints hWrite hParse h
  rw [hDecided.batch hBatch, defaultType_settingsOf] at hRest
  exact ⟨content, hContent, hRest⟩

/-- What a run that only lints comes to: it shows the issues of the text, and it
finishes if it can load its settings, if its log file is ready, and if the surroundings take
what it shows and logs. -/
theorem course_of_lint (hLints : LintsFile inv p) (hFix : inv.fix = false)
    (hWrite : inv.write = false) {tree : Files.Tree}
    (hAuto : (settingsOf w tree inv).autoFix = false) {args : List Text}
    (hParse : Arguments.parse tree args = .ok inv) {content : Text}
    (hRead : tree.read p.toText = .ok content) :
    (∀ failed t, course w tree args = (.ok failed, t) →
      failed = fails (settingsOf w tree inv).strict (lint (unifyLineEnds content)) ∧
      t.console = shownOf (unifyLineEnds content)) ∧
    (Loads w tree inv.path → Takes w inv (settingsOf w tree inv) (unifyLineEnds content) →
      LogReady tree (logFileWith w inv (settingsOf w tree inv)) →
        ∃ failed t, course w tree args = (.ok failed, t)) := by
  have hAsked : ∀ log s, repairAsked w inv (settingsOf w tree inv) log s = pure s := by
    intro log s
    rw [repairAsked, if_neg (by simp [hFix, hWrite, hAuto])]
  refine ⟨fun failed t h => ?_, fun hLoads hTakes hReady => ?_⟩
  · rw [course_of_lintsFile hLints hParse (loads_of_course_eq_ok hLints hParse h)] at h
    obtain ⟨content', s', hContent, hConsole, -, hRest⟩ := exec_lintMessage_eq_ok hLints rfl h
    obtain rfl : content' = content :=
      Option.some.inj (hContent.symm.trans (Files.Tree.lookup_of_read hRead))
    rw [hAsked, exec_bind, exec_pure] at hRest
    dsimp only at hRest
    rw [exec_pure, Prod.mk.injEq, Except.ok.injEq] at hRest
    obtain ⟨rfl, rfl⟩ := hRest
    exact ⟨by rw [Session.update_eq, lint_trim], hConsole⟩
  · rw [course_of_lintsFile hLints hParse hLoads]
    obtain ⟨s', hRun⟩ := exec_lintMessage_of_ready (w := w) (c := settingsOf w tree inv) hLints
      (s := afterLoading w inv (Shell.start w tree)) rfl hRead hReady hTakes
    rw [hRun, hAsked, exec_bind, exec_pure]
    exact ⟨_, _, rfl⟩

/-- The shell that a run leaves when it finishes. -/
theorem exists_course {tree : Files.Tree} {args : List Text} {failed : Bool}
    (h : (course w tree args).1 = .ok failed) : ∃ t, course w tree args = (.ok failed, t) :=
  ⟨_, Prod.ext h rfl⟩

/-- The outcome of a run that has gone through its course. -/
theorem run_of_course {tree : Files.Tree} {args : List Text} {failed : Bool} {t : Shell}
    (h : course w tree args = (.ok failed, t)) :
    run w tree args = .of (if failed then 1 else 0) [] t := by
  rw [run_eq, h, conclude]

/-- What a run that only lints shows and exits with. -/
theorem run_of_lint (hLints : LintsFile inv p) (hFix : inv.fix = false)
    (hWrite : inv.write = false) {tree : Files.Tree}
    (hAuto : (settingsOf w tree inv).autoFix = false) {args : List Text}
    (hParse : Arguments.parse tree args = .ok inv) {content : Text}
    (hRead : tree.read p.toText = .ok content) {failed : Bool}
    (hFinish : (course w tree args).1 = .ok failed) :
    (run w tree args).exit =
        (if fails (settingsOf w tree inv).strict (lint (unifyLineEnds content)) then 1 else 0) ∧
      (run w tree args).console = shownOf (unifyLineEnds content) := by
  obtain ⟨t, hCourse⟩ := exists_course hFinish
  obtain ⟨hFailed, hConsole⟩ :=
    (course_of_lint hLints hFix hWrite hAuto hParse hRead).1 failed t hCourse
  rw [run_of_course hCourse, ← hFailed]
  exact ⟨rfl, hConsole⟩

/--
**Writing back is stable**: let a run without questions lint a message file and be
asked to write.  If it finishes, the file holds what repairing its old text gives,
where carriage returns are read as line ends and the type is the chosen one, and a
line feed.  The exit status is 1 exactly if that text still has an error, or any
issue where warnings count.  Every later run that lints this file, repairs nothing
and is as strict shows the very issues that were shown after the repair and exits
with the same status if it finishes; and it does finish if it can load its settings, if the
surroundings take what it shows and logs, and if it logs nowhere or to the same file.
-/
theorem writeBack_stable {tree : Files.Tree} {args : List Text}
    (hParse : Arguments.parse tree args = .ok inv) (hLints : LintsFile inv p)
    (hWrite : inv.write = true) (hBatch : inv.interactive = false) {failed : Bool}
    (hFinish : (course w tree args).1 = .ok failed) :
    ∃ content, tree.files.lookup (Files.placeOf p.toText) = some content ∧
      let written := fixAll ⟨chosenType w tree inv⟩ (unifyLineEnds content) ++ ['\n']
      let strict := (settingsOf w tree inv).strict
      let after := (run w tree args).tree
      after.files.lookup (Files.placeOf p.toText) = some written ∧
      ((run w tree args).exit = 1 ↔ ∃ i ∈ lint written, strict = true ∨ i.isError = true) ∧
      (∃ shown more, (run w tree args).console = shown ++
        [.markup "\n[bold]After fixing:[/bold]".toList, Report.issues (lint written)] ++ more) ∧
      ∀ w' args' inv', Arguments.parse after args' = .ok inv' → LintsFile inv' p →
        inv'.fix = false → inv'.write = false →
        (settingsOf w' after inv').autoFix = false →
        (settingsOf w' after inv').strict = strict →
        (∀ failed', (course w' after args').1 = .ok failed' →
          (run w' after args').exit = (run w tree args).exit ∧
          (run w' after args').console = shownOf written) ∧
        (Loads w' after inv'.path → Takes w' inv' (settingsOf w' after inv') written →
          logFileWith w' inv' (settingsOf w' after inv') = none ∨
            logFileWith w' inv' (settingsOf w' after inv') =
              logFileWith w inv (settingsOf w tree inv) →
          ∃ failed', (course w' after args').1 = .ok failed') := by
  obtain ⟨t, hCourse⟩ := exists_course hFinish
  obtain ⟨content, hContent, hFailed, hRead, hReady, shown, more, hShown⟩ :=
    course_eq_ok hLints hWrite hBatch hParse hCourse
  have hNoReturn := return_not_mem_fixAll ⟨chosenType w tree inv⟩
    (return_not_mem_unifyLineEnds content)
  refine ⟨content, hContent, ?_⟩
  generalize fixAll ⟨chosenType w tree inv⟩ (unifyLineEnds content) = fixed at *
  have hUnified : unifyLineEnds (fixed ++ ['\n']) = fixed ++ ['\n'] :=
    unifyLineEnds_of_not_mem (by simp [hNoReturn])
  have hExit : ∀ failed : Bool, (if failed then 1 else 0) = 1 ↔ failed = true := by decide
  have hTree : (run w tree args).tree = t.tree := by rw [run_of_course hCourse]; rfl
  dsimp only
  rw [hTree, run_of_course hCourse]
  refine ⟨?_, ?_, ⟨shown, more, ?_⟩, ?_⟩
  · exact Files.Tree.lookup_of_read hRead
  · rw [lint_append_newline, ← fails_iff, ← hFailed]
    exact hExit failed
  · rw [lint_append_newline]
    exact hShown
  · intro w' args' inv' hParse' hLints' hFix' hWrite' hAuto' hStrict'
    refine ⟨fun failed' hFinish' => ?_, fun hLoads' hTakes' hLog => ?_⟩
    · obtain ⟨hExit', hConsole'⟩ :=
        run_of_lint hLints' hFix' hWrite' hAuto' hParse' hRead hFinish'
      rw [hUnified] at hExit' hConsole'
      rw [hStrict', lint_append_newline, ← hFailed] at hExit'
      exact ⟨hExit', hConsole'⟩
    · have hReady' : LogReady t.tree (logFileWith w' inv' (settingsOf w' t.tree inv')) := by
        rcases hLog with hNone | hLog
        · intro q hq
          rw [hNone] at hq
          contradiction
        · rw [hLog]
          exact hReady
      obtain ⟨failed', t', hCourse'⟩ :=
        (course_of_lint hLints' hFix' hWrite' hAuto' hParse' hRead).2 hLoads'
          (hUnified.symm ▸ hTakes') hReady'
      exact ⟨failed', congrArg Prod.fst hCourse'⟩

/-- A message with a carriage return, a period and a crowded header, which is written
back with the type in lower case and then linted again. -/
theorem writeBack_stable_three_fixes :
    let w := World.calm [] ⟨2024, 1, 2, 3, 4, 5⟩
    let tree := Files.Tree.ofFiles [("msg".toList, "Feat: add x.\r\nmore".toList)]
    let after := (run w tree (["msg", "--write"].map String.toList)).tree
    after.files.lookup (Files.placeOf "msg".toList) = some "feat: add x\n\nmore\n".toList ∧
      (run w after ["msg".toList]).exit =
        (run w tree (["msg", "--write"].map String.toList)).exit := by
  intro w tree after
  have hParse : Arguments.parse tree (["msg", "--write"].map String.toList) = .ok
      ⟨some ⟨false, ["msg".toList]⟩, none, false, true, none, false, false, false, none,
        ⟨false, []⟩, false, false, false, false⟩ := ok_of_toOption (by decide +kernel)
  have hFinish : (course w tree (["msg", "--write"].map String.toList)).1 = .ok false :=
    ok_of_toOption (by decide +kernel)
  obtain ⟨content, hContent, hWritten, -, -, hLater⟩ := writeBack_stable hParse
    (p := ⟨false, ["msg".toList]⟩) ⟨rfl, rfl, rfl, rfl, rfl, rfl, by decide⟩ rfl rfl hFinish
  have hSame : "Feat: add x.\r\nmore".toList = content := Option.some.inj hContent
  subst hSame
  refine ⟨hWritten.trans (by decide +kernel), ?_⟩
  have hParse' : Arguments.parse after ["msg".toList] = .ok
      ⟨some ⟨false, ["msg".toList]⟩, none, false, false, none, false, false, false, none,
        ⟨false, []⟩, false, false, false, false⟩ := ok_of_toOption (by decide +kernel)
  have hFinish' : (course w after ["msg".toList]).1 = .ok false :=
    ok_of_toOption (by decide +kernel)
  exact ((hLater w ["msg".toList] _ hParse' ⟨rfl, rfl, rfl, rfl, rfl, rfl, by decide⟩ rfl rfl
    (by decide +kernel) (by decide +kernel)).1 _ hFinish').1

end CommitLint.Command
