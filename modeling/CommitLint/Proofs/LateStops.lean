import CommitLint.Proofs.WriteBack

/-!
# What a run that stops leaves behind

Until a repaired message is handed over, a run changes the log file only
(`lintMessage_leadsTo`).  Handing over is not the last thing that can fail.  The file of
the message is opened, and thereby emptied, before its new content is encoded; the console
is told of it afterwards; and only then comes the clipboard.  So a run that stops has
changed the log file only, or one of these reasons has stopped it late (`lateStop?`).  In
the second case the file holds the repaired message, or nothing if that could not be
encoded (`exec_handOver`).

Main result: `run_changedAt`.
-/

namespace CommitLint.Command

open Text Step

variable {w : World} {inv : Arguments.Invocation} {c : Config} {p : Files.Path} {s : Shell}

/-! ## Handing over -/

/-- Why a run stops after the file of the message has been opened: its new content cannot be
encoded, the console cannot show that it has been written, or copying it stops the run. -/
def lateStop? (w : World) (inv : Arguments.Invocation) (p : Files.Path) (fixed : Text) :
    Option Failure :=
  match w.refusal? .utf8 (fixed ++ ['\n']) with
  | some why => some (.encoding why)
  | none =>
    match w.console (writtenNote p) with
    | some why => some (.console why)
    | none => if inv.copy then copyStop? w fixed else none

/-- **Handing over** to a file: if it cannot be opened, nothing has happened.  If it can, it holds
the message or nothing in the end, and the run stops if there is a reason for a late stop. -/
theorem exec_handOver (hWrite : inv.write = true) (hTarget : targetFile inv = some p)
    (w : World) (fixed : Text) (s : Shell) :
    (∃ e, exec (handOver w inv fixed) s = (.error (.failure (.files e p.toText)), s)) ∨
      (exec (handOver w inv fixed) s).2.tree.read p.toText = .ok (leftBy w (fixed ++ ['\n'])) ∧
        (exec (handOver w inv fixed) s).1 =
          match lateStop? w inv p fixed with
          | none => .ok ()
          | some f => .error (.failure f) := by
  obtain ⟨hFile, hNotDash⟩ := Option.filter_eq_some_iff.1 hTarget
  have hStore : storeFixed w inv fixed =
      writeFile w p.toText (fixed ++ ['\n']) >>= fun _ => display w (writtenNote p) := by
    rw [storeFixed, if_pos hWrite, writeBack, hFile]
    dsimp only
    rw [if_neg (by simpa using hNotDash)]
  unfold handOver lateStop?
  rw [hStore, bind_assoc, exec_bind]
  rcases exec_writeFile w p.toText (fixed ++ ['\n']) s with ⟨e, hStop⟩ | ⟨tree, hRead, hRun⟩
  · rw [hStop]
    exact Or.inl ⟨e, rfl⟩
  · rw [hRun]
    refine Or.inr ?_
    cases w.refusal? .utf8 (fixed ++ ['\n']) with
    | some why => exact ⟨hRead, rfl⟩
    | none =>
        dsimp only
        rw [exec_bind, exec_display]
        cases w.console (writtenNote p) with
        | some why => exact ⟨hRead, rfl⟩
        | none =>
            dsimp only
            refine ⟨?_, ?_⟩
            · rw [still_shareFixed]
              exact hRead
            · unfold shareFixed
              cases inv.copy with
              | true =>
                  rw [if_pos rfl, if_pos rfl]
                  cases hStop : copyStop? w fixed <;> simp only [exec_copyFixed, hStop]
              | false => rfl

/-! ## Linting up to there -/

/-- The text that a run lints: that of the option, or that of a file, or the standard input. -/
def IsMessage (tree : Files.Tree) (inv : Arguments.Invocation) (t : Text) : Prop :=
  inv.message = some t ∨ inv.message = none ∧ ∃ p, inv.messageFile = some p ∧
    (isDash p = false → ∃ content, tree.files.lookup (Files.placeOf p.toText) = some content ∧
      t = unifyLineEnds content)

theorem exec_readMessage_eq_ok {t : Text} {s' : Shell}
    (h : exec (readMessage inv) s = (.ok t, s')) : IsMessage s.tree inv t := by
  unfold readMessage at h
  split at h
  · rename_i text hMessage
    rw [exec_pure, Prod.mk.injEq, Except.ok.injEq] at h
    exact Or.inl (hMessage.trans (congrArg some h.1))
  · simp at h
  · rename_i p hMessage hFile
    refine Or.inr ⟨hMessage, p, hFile, fun hNotDash => ?_⟩
    rw [if_neg (by simp [hNotDash]), exec_readFile] at h
    split at h
    · rename_i content hContent
      rw [Prod.mk.injEq, Except.ok.injEq] at h
      exact ⟨content, Files.Tree.lookup_of_read hContent, h.1.symm⟩
    · simp at h

/-- A repaired message, as a run comes to it. -/
def IsRepaired (tree : Files.Tree) (inv : Arguments.Invocation) (c : Config) (fixed : Text) :
    Prop :=
  ∃ t made, IsMessage tree inv t ∧ Decided inv c t made ∧ fixed = fixAll made t

/-- **Linting** changes the log file only, or it leads to handing over a repaired message. -/
theorem lintMessage_leadsTo (w : World) (inv : Arguments.Invocation) (c : Config)
    (hClock : s.readings = 0) :
    LeadsTo (IsPlaceOf (logFileWith w inv c))
      (fun y => ∃ fixed, IsRepaired s.tree inv c fixed ∧ y = handOver w inv fixed)
      (lintMessage w inv c) s := by
  rw [lintMessage_eq]
  refine LeadsTo.bind ((still_logPath w inv c).touches _) fun log s1 hPath => ?_
  have hSame := (still_logPath w inv c).tree_eq hPath
  obtain ⟨r, notices, n, hRun, hLog, -⟩ := exec_logPath w inv c hClock
  rw [hRun, Prod.mk.injEq] at hPath
  obtain rfl := hLog log hPath.1
  generalize logFileWith w inv c = log
  refine LeadsTo.bind (touches_openLog log) fun _ s2 hOpen => ?_
  refine LeadsTo.bind ((still_readMessage inv).touches _) fun t s3 hRead => ?_
  have hMessage : IsMessage s.tree inv t := by
    have hNow := exec_readMessage_eq_ok hRead
    rwa [IsMessage, (exec_openLog_eq_ok hOpen).2.1, hSame] at hNow
  refine LeadsTo.bind (touches_announce w log _) fun _ s4 _ => ?_
  refine LeadsTo.bind ((still_display w _).touches _) fun _ s5 _ => ?_
  refine LeadsTo.bind_pure ?_ _
  unfold repairAsked
  split
  · rw [repair_eq]
    refine LeadsTo.bind ((still_settle w inv c _).touches _) fun session s6 hSettled => ?_
    obtain ⟨hDecided, hFixed, -⟩ := exec_settle_eq_ok hSettled
    refine LeadsTo.bind (touches_reportRepair w log _ _) fun _ s7 _ => ?_
    exact LeadsTo.of_last ⟨_, ⟨t, _, hMessage, hDecided, hFixed⟩, rfl⟩ _ s7
  · exact LeadsTo.of_touches ((still_pure _).touches _) s5

/-! ## Whole runs -/

/-- A run stops early, because of a misuse or of a failure. -/
def Stops (w : World) (tree : Files.Tree) (args : List Text) : Prop :=
  ∃ stop, (course w tree args).1 = .error stop

/-- A run stops after it has opened the file of the message for writing, which then holds the
repaired message, or nothing if that cannot be encoded. -/
def StopsLate (w : World) (tree : Files.Tree) (args : List Text)
    (inv : Arguments.Invocation) : Prop :=
  ∃ p fixed f, inv.write = true ∧ targetFile inv = some p ∧
    IsRepaired tree inv (settingsOf w tree inv) fixed ∧ lateStop? w inv p fixed = some f ∧
    (course w tree args).1 = .error (.failure f) ∧
    (run w tree args).tree.files.lookup (Files.placeOf p.toText) =
      some (leftBy w (fixed ++ ['\n']))

/-- Handing over leaves the files alone where nothing is to be written to a file. -/
theorem still_handOver (w : World) (fixed : Text)
    (h : ¬ (inv.write = true ∧ ∃ p, targetFile inv = some p)) : Still (handOver w inv fixed) := by
  unfold handOver
  refine Still.bind ?_ fun _ => still_shareFixed w inv fixed
  unfold storeFixed writeBack echo
  split
  · rename_i hWrite
    split
    · exact still_print w _
    · rename_i p hFile
      split
      · exact still_print w _
      · rename_i hNotDash
        exact absurd ⟨hWrite, p, by simp [targetFile, hFile, hNotDash]⟩ h
  · exact still_pure _

/-- What a run that has been understood changes, however it ends. -/
theorem changedAt_perform (w : World) (inv : Arguments.Invocation) (hDir : inv.configDir = false)
    (hClock : s.readings = 0) :
    let ended := exec (perform w inv) s
    let log := IsPlaceOf (logFileWith w inv (settingsOf w s.tree inv))
    s.tree.ChangedAt log ended.2.tree ∨
      (inv.write = true ∧ inv.version = false ∧ inv.configList = false) ∧
        ∃ p fixed, targetFile inv = some p ∧ IsRepaired s.tree inv (settingsOf w s.tree inv) fixed ∧
          s.tree.ChangedAt (fun q => log q ∨ q = Files.placeOf p.toText) ended.2.tree ∧
          ended.2.tree.read p.toText = .ok (leftBy w (fixed ++ ['\n'])) ∧
          ∀ stop, ended.1 = .error stop → ∃ f, lateStop? w inv p fixed = some f ∧
            stop = .failure f := by
  rcases perform_cases w inv hDir s with hSame | ⟨hVersion, hList, -, hRun⟩
  · dsimp only
    rw [hSame]
    exact Or.inl (.refl _ _)
  · dsimp only
    rw [hRun]
    rcases lintMessage_leadsTo (s := afterLoading w inv s) w inv (settingsOf w s.tree inv) hClock with
      hChanged | ⟨y, t, ⟨fixed, hRepaired, rfl⟩, hBefore, hEnd, hStop⟩
    · exact Or.inl hChanged
    rw [hEnd]
    by_cases hFile : inv.write = true ∧ ∃ p, targetFile inv = some p
    · obtain ⟨hWrite, p, hTarget⟩ := hFile
      rcases exec_handOver hWrite hTarget w fixed t with ⟨e, hFailed⟩ | ⟨hRead, hResult⟩
      · rw [hFailed]
        exact Or.inl hBefore
      · refine Or.inr ⟨⟨hWrite, hVersion, hList⟩, p, fixed, hTarget, hRepaired, ?_, hRead,
          fun stop hStopped => ?_⟩
        · refine (hBefore.mono fun _ => Or.inl).trans ((touches_handOver w inv fixed t).mono ?_)
          rintro q ⟨-, p', hTarget', rfl⟩
          rw [hTarget] at hTarget'
          cases hTarget'
          exact Or.inr rfl
        · rw [hStop stop, hResult] at hStopped
          cases hLate : lateStop? w inv p fixed with
          | none => simp [hLate] at hStopped
          | some f =>
              rw [hLate, Except.error.injEq] at hStopped
              exact ⟨f, rfl, hStopped.symm⟩
    · rw [still_handOver w fixed hFile t]
      exact Or.inl hBefore

/--
**What a run leaves behind**, on any command line without `--config-dir`.  A misuse of the
command line changes nothing.  A run that is not asked to write, or only shows the version or
the settings, changes no file but the log file: every other file has its old content, and none
is new.  Any run changes at most the log file and the file of the message.  A run that stops
early for whatever reason changes no file but the log file either, unless it stops late: the
repaired message cannot be encoded, the console cannot show that it has been written, or copying
it breaks or cannot be shown.  The clipboard makes no difference to the files, and none to the
exit status as long as copying comes to a known end that can be shown.
-/
theorem run_changedAt (w : World) (tree : Files.Tree) (args : List Text) :
    (∀ m, Arguments.parse tree args = .error m → (run w tree args).tree = tree) ∧
    ∀ inv, Arguments.parse tree args = .ok inv → inv.configDir = false →
      let log := IsPlaceOf (logFileWith w inv (settingsOf w tree inv))
      let after := (run w tree args).tree
      (inv.write = false ∨ inv.version = true ∨ inv.configList = true →
        tree.ChangedAt log after) ∧
      tree.ChangedAt (fun q => log q ∨ IsPlaceOf (targetFile inv) q) after ∧
      (Stops w tree args → tree.ChangedAt log after ∨ StopsLate w tree args inv) ∧
      ∀ clipboard,
        (run (w.withClipboard clipboard) tree args).tree = after ∧
        (CopyEitherWay w clipboard →
          (run (w.withClipboard clipboard) tree args).exit = (run w tree args).exit) := by
  refine ⟨fun m hMisuse => ?_, fun inv hParse hDir => ?_⟩
  · rw [run_eq, tree_conclude, course, hMisuse]
    rfl
  have hCourse := course_eq (w := w) hParse
  have hAfter : (run w tree args).tree = (exec (perform w inv) (Shell.start w tree)).2.tree := by
    rw [run_eq, tree_conclude, hCourse]
  have hCases := changedAt_perform (s := Shell.start w tree) w inv hDir rfl
  dsimp only at hCases ⊢
  refine ⟨fun hRead => ?_, ?_, ?_, fun clipboard => ?_⟩
  · rw [hAfter]
    rcases hCases with hChanged | ⟨⟨hWrite, hVersion, hList⟩, -⟩
    · exact hChanged
    · simp [hWrite, hVersion, hList] at hRead
  · rw [hAfter]
    rcases hCases with hChanged | ⟨-, p, fixed, hTarget, -, hChanged, -⟩
    · exact hChanged.mono fun _ => Or.inl
    · exact hChanged.mono fun q hq => hq.imp_right fun hPlace => ⟨p, hTarget, hPlace⟩
  · rintro ⟨stop, hStop⟩
    rcases hCases with hChanged | ⟨⟨hWrite, -⟩, p, fixed, hTarget, hRepaired, -, hRead, hLate⟩
    · rw [hAfter]
      exact Or.inl hChanged
    · have hEnd := hStop
      rw [hCourse] at hStop
      obtain ⟨f, hReason, rfl⟩ := hLate stop hStop
      refine Or.inr ⟨p, fixed, f, hWrite, hTarget, hRepaired, hReason, hEnd, ?_⟩
      rw [hAfter]
      exact Files.Tree.lookup_of_read hRead
  · obtain ⟨hTree, hResult⟩ := perform_endsAlike w clipboard inv hDir (Shell.start w tree)
    rw [run_eq, run_eq, tree_conclude, tree_conclude, exit_conclude, exit_conclude,
      course_eq hParse, course_eq hParse]
    exact ⟨hTree, fun hWell => congrArg exitStatus (hResult hWell)⟩

theorem stops_of_toOption {tree : Files.Tree} {args : List Text}
    (h : (course w tree args).1.toOption = none) : Stops w tree args := by
  cases hResult : (course w tree args).1 with
  | ok failed => simp [hResult, Except.toOption] at h
  | error stop => exact ⟨stop, hResult⟩

/-- Where a type is asked for and the input ends, the message stays although it was
to be written; `--write` takes effect only in a run that gets so far. -/
theorem run_changedAt_unanswered :
    let w := World.calm [] ⟨2024, 1, 2, 3, 4, 5⟩
    let tree := Files.Tree.ofFiles [("msg".toList, "add x".toList)]
    let args := ["msg", "--write", "-i", "-l", "log"].map String.toList
    Stops w tree args ∧
      (run w tree args).tree.files.lookup (Files.placeOf "msg".toList) =
        some "add x".toList := by
  intro w tree args
  have hParse : Arguments.parse tree args = .ok
      ⟨some ⟨false, ["msg".toList]⟩, none, false, true, none, true, false, false,
        some ⟨false, ["log".toList]⟩, ⟨false, []⟩, false, false, false, false⟩ :=
    ok_of_toOption (by decide +kernel)
  have hStops : Stops w tree args := stops_of_toOption (by decide +kernel)
  have hTakes (t : Text) : w.refusal? .utf8 t = none := by
    refine Encoding.refusal?_eq_none_iff.2 fun n hn => ?_
    obtain ⟨c, -, rfl⟩ := List.mem_map.1 hn
    exact Encoding.utf8_writes_toNat c
  rcases ((run_changedAt w tree args).2 _ hParse rfl).2.2.1 hStops with
    hChanged | ⟨p, fixed, f, -, -, -, hLate, -⟩
  · refine ⟨hStops, (hChanged.files _ ?_).trans rfl⟩
    rintro ⟨p, hLog, hPlace⟩
    cases hLog
    revert hPlace
    decide
  · rw [lateStop?, hTakes] at hLate
    cases hLate

/-- A message from the command line with a byte that is no UTF-8, which is to be written to a
file; and a file whose name the console takes for markup that does not make sense. -/
theorem run_stops_late :
    let calm := World.calm [] ⟨2024, 1, 2, 3, 4, 5⟩
    let byte := Char.ofNat 0x10F8FF
    let odd : World := { calm with codePoint := fun c => if c = byte then 0xDCFF else c.toNat }
    let args := ["-m".toList, "feat: a".toList ++ [byte], "msg".toList, "--write".toList]
    let tree := Files.Tree.ofFiles [("msg".toList, "old\n".toList)]
    let name := "x[@a=(][".toList
    let strict : World := { calm with
      console := fun item => if item = writtenNote ⟨false, [name]⟩ then some [] else none }
    let tree' := Files.Tree.ofFiles [(name, "feat: a.".toList)]
    ((run odd tree args).exit = 1 ∧
        (run odd tree args).tree.files.lookup (Files.placeOf "msg".toList) = some []) ∧
      (run strict tree' [name, "--write".toList]).exit = 1 ∧
        (run strict tree' [name, "--write".toList]).tree.files.lookup (Files.placeOf name) =
          some "feat: a\n".toList := by
  decide +kernel

end CommitLint.Command
