import CommitLint.Proofs.Loading
import CommitLint.Proofs.Logging

/-!
# What the stages of a run leave behind

A run writes two files: the log file, each time its observers are told of an event,
and the file of the message, when a repaired message is handed over.  Every other stage
leaves the files alone; so a run that only shows something changes no file, and a
repair changes these two at most (`touches_repair`).  What is copied, and whether that
works, makes no difference to the files (`perform_endsAlike`).
-/

namespace CommitLint.Command

open Text Step

variable {w : World} {inv : Arguments.Invocation} {c : Config} {s : Shell}

/-! ## The places that a run may change -/

/-- The file that a run logs to with given settings, if it logs at all. -/
def logFileWith (w : World) (inv : Arguments.Invocation) (c : Config) : Option Files.Path :=
  match inv.logFile with
  | some p => some p
  | none => (c.logPath (w.clock 0)).1

/-- The settings of a run. -/
def settingsOf (w : World) (tree : Files.Tree) (inv : Arguments.Invocation) : Config :=
  withOptions inv (Config.load w.toHost tree inv.path).1

/-- The place of a file, if there is one. -/
def IsPlaceOf (file : Option Files.Path) (q : Files.Place) : Prop :=
  ∃ p ∈ file, q = Files.placeOf p.toText

/-- The file that a repaired message is written back to; the standard input is none. -/
def targetFile (inv : Arguments.Invocation) : Option Files.Path :=
  inv.messageFile.filter fun p => !isDash p

/-! ## Stages that leave the files alone -/

/-- What there is to tell about the log file can be told. -/
def TellsLogPath (w : World) (inv : Arguments.Invocation) (c : Config) : Prop :=
  inv.logFile = none → w.untold? (c.logPath (w.clock 0)).2 = none

/-- **The log file** of a run comes out if what there is to tell about it can be told; the
clock may be read for its name. -/
theorem exec_logPath (w : World) (inv : Arguments.Invocation) (c : Config)
    (hClock : s.readings = 0) :
    ∃ r notices n, exec (logPath w inv c) s =
        (r, { s with notices := notices, readings := n }) ∧
      (∀ log, r = .ok log → log = logFileWith w inv c) ∧
      (TellsLogPath w inv c → r = .ok (logFileWith w inv c)) := by
  unfold logPath logFileWith TellsLogPath
  cases inv.logFile with
  | some p => exact ⟨_, s.notices, s.readings, rfl, fun log h => (Except.ok.inj h).symm, fun _ => rfl⟩
  | none =>
      dsimp only
      rw [exec_bind, exec_get]
      dsimp only
      rw [hClock]
      have hTell (n : Nat) : ∃ r notices,
          exec (do tell w (c.logPath (w.clock 0)).2; pure (c.logPath (w.clock 0)).1)
              { s with readings := n } = (r, { s with notices := notices, readings := n }) ∧
            (∀ log, r = .ok log → log = (c.logPath (w.clock 0)).1) ∧
            (w.untold? (c.logPath (w.clock 0)).2 = none → r = .ok (c.logPath (w.clock 0)).1) := by
        rw [exec_bind, exec_tell]
        cases w.untold? (c.logPath (w.clock 0)).2 with
        | none => exact ⟨_, _, rfl, fun log h => (Except.ok.inj h).symm, fun _ => rfl⟩
        | some why => exact ⟨_, _, rfl, nofun, nofun⟩
      cases c.alwaysLog with
      | true =>
          obtain ⟨r, notices, hRun, hPath, hTold⟩ := hTell (s.readings + 1)
          exact ⟨r, notices, s.readings + 1, hRun, hPath, fun h => hTold (h rfl)⟩
      | false =>
          obtain ⟨r, notices, hRun, hPath, hTold⟩ := hTell s.readings
          exact ⟨r, notices, s.readings, hRun, hPath, fun h => hTold (h rfl)⟩

theorem still_logPath (w : World) (inv : Arguments.Invocation) (c : Config) :
    Still (logPath w inv c) := by
  unfold logPath
  split
  · exact still_pure _
  · refine still_get.bind fun shell => ?_
    dsimp only
    split
    · refine ((still_readClock w).bind fun _ => still_pure _).bind fun _ => ?_
      exact (still_tell w _).bind fun _ => still_pure _
    · exact (still_tell w _).bind fun _ => still_pure _

theorem still_readMessage (inv : Arguments.Invocation) : Still (readMessage inv) := by
  unfold readMessage
  split
  · exact still_pure _
  · exact still_throw _
  · split
    · exact still_readInput
    · exact still_readFile _

/-- Asking goes on kind by kind; it stops where the input ends. -/
theorem still_askChoices (w : World) (s : Session) (kinds : List ChoiceKind) :
    Still (askChoices w s kinds) := by
  induction kinds generalizing s with
  | nil => exact still_pure s
  | cons kind kinds ih =>
      unfold askChoices
      refine (still_display w _).bind fun _ => still_get.bind fun shell => ?_
      dsimp only
      generalize askType (inputLines shell.input) = asked
      obtain ⟨printed, answer⟩ := asked
      refine (still_forM (still_print w) _).bind fun _ => ?_
      cases answer with
      | none => exact still_fail _
      | some found =>
          obtain ⟨k, left⟩ := found
          exact Still.bind (fun _ => rfl) fun _ => ih _

theorem still_warnLeft (w : World) (s : Session) : Still (warnLeft w s) := by
  unfold warnLeft
  split
  · exact (still_display w _).bind fun _ => still_pure _
  · exact still_pure _

theorem still_settle (w : World) (inv : Arguments.Invocation) (c : Config) (s : Session) :
    Still (settle w inv c s) := by
  rw [settle_eq]
  refine Still.bind ?_ fun s => still_warnLeft w s
  unfold askLeft
  split
  · exact still_askChoices w _ _
  · exact still_pure _

theorem still_shareFixed (w : World) (inv : Arguments.Invocation) (fixed : Text) :
    Still (shareFixed w inv fixed) := by
  unfold shareFixed copyFixed
  split
  · exact (still_copy w fixed).bind fun _ => still_display w _
  · exact still_pure _

theorem still_listSettings (w : World) (c : Config) (directory : Files.Path) :
    Still (listSettings w c directory) := by
  unfold listSettings
  refine (still_display w _).bind fun _ => (still_findSettings w directory).bind fun _ => ?_
  dsimp only
  split
  all_goals
    exact (still_display w _).bind fun _ => (still_display w _).bind fun _ =>
      (still_display w _).bind fun _ => (still_forM (fun _ => still_display w _) _).bind fun _ =>
        still_display w _

/-! ## Stages that write -/

theorem touches_openLog {places : Files.Place → Prop} (log : Option Files.Path) :
    Touches places (openLog log) := by
  unfold openLog
  split
  · exact touches_makeParent _
  · exact (still_pure _).touches _

/-- Telling of an event changes the log file at most. -/
theorem touches_announce (w : World) (log : Option Files.Path) (e : Log.Event) :
    Touches (IsPlaceOf log) (announce w log e) := by
  unfold announce
  refine ((still_display w _).touches _).bind fun _ => ?_
  split
  · exact (still_pure _).touches _
  · rename_i p
    refine Touches.mono (touches_forM (fun message => ?_) _) fun q hq => ⟨p, rfl, hq⟩
    exact ((still_readClock w).touches _).bind fun _ => touches_appendFile w _ _

theorem touches_reportRepair (w : World) (log : Option Files.Path) (before : Text)
    (s : Session) : Touches (IsPlaceOf log) (reportRepair w log before s) := by
  unfold reportRepair
  refine (touches_announce w log _).bind fun _ => ((still_display w _).touches _).bind fun _ => ?_
  exact ((still_display w _).touches _).bind fun _ => (still_display w _).touches _

/-- Handing over changes the file of the message at most, and only if it is to be written. -/
theorem touches_handOver (w : World) (inv : Arguments.Invocation) (fixed : Text) :
    Touches (fun q => inv.write = true ∧ IsPlaceOf (targetFile inv) q)
      (handOver w inv fixed) := by
  unfold handOver
  refine Touches.bind ?_ fun _ => (still_shareFixed w inv fixed).touches _
  unfold storeFixed writeBack echo
  split
  · rename_i hWrite
    split
    · exact (still_print w _).touches _
    · rename_i p hFile
      split
      · exact (still_print w _).touches _
      · rename_i hNotDash
        have hTarget : targetFile inv = some p := by
          simp [targetFile, hFile, hNotDash]
        have hWritten : Touches (· = Files.placeOf p.toText)
            (writeFile w p.toText (fixed ++ ['\n'])) :=
          (touches_change _ _).bind fun _ => touches_writeOn w _ _ _
        exact (hWritten.mono fun q hq => ⟨hWrite, p, hTarget, hq⟩).bind fun _ =>
          (still_display w _).touches _
  · exact (still_pure _).touches _

/-- The places that a repair may change. -/
def Finished (inv : Arguments.Invocation) (log : Option Files.Path) (q : Files.Place) : Prop :=
  IsPlaceOf log q ∨ inv.write = true ∧ IsPlaceOf (targetFile inv) q

theorem touches_repair (w : World) (inv : Arguments.Invocation) (c : Config)
    (log : Option Files.Path) (s : Session) :
    Touches (Finished inv log) (repair w inv c log s) := by
  rw [repair_eq]
  refine ((still_settle w inv c s).touches _).bind fun s => ?_
  refine ((touches_reportRepair w log _ _).mono fun _ => Or.inl).bind fun _ => ?_
  refine ((touches_handOver w inv _).mono fun _ => Or.inr).bind fun _ => ?_
  exact (still_pure _).touches _

/-! ## Runs that lint -/

theorem course_eq {tree : Files.Tree} {args : List Text}
    (hParse : Arguments.parse tree args = .ok inv) :
    course w tree args = exec (perform w inv) (Shell.start w tree) := by
  unfold course
  rw [hParse]

/-- A shell after loading the settings. -/
def afterLoading (w : World) (inv : Arguments.Invocation) (s : Shell) : Shell :=
  { s with notices := s.notices ++ (Config.load w.toHost s.tree inv.path).2 }

/-- A run that lints a message does so with the settings that it has loaded. -/
theorem exec_perform_of_loads (hLoads : Loads w s.tree inv.path) (hHelp : inv.help = false)
    (hVersion : inv.version = false) (hList : inv.configList = false)
    (hDir : inv.configDir = false) :
    exec (perform w inv) s =
      exec (lintMessage w inv (settingsOf w s.tree inv)) (afterLoading w inv s) := by
  rw [perform, if_neg (by simp [hHelp]), if_neg (by simp [hVersion]),
    exec_bind_of_ok (exec_loadSettings_of_loads hLoads), if_neg (by simp [hList]),
    if_neg (by simp [hDir])]
  rfl

/-- Without `--config-dir` a run leaves the files alone, or it lints a message. -/
theorem perform_cases (w : World) (inv : Arguments.Invocation) (hDir : inv.configDir = false)
    (s : Shell) :
    (exec (perform w inv) s).2.tree = s.tree ∨
      inv.version = false ∧ inv.configList = false ∧ inv.help = false ∧
        exec (perform w inv) s =
          exec (lintMessage w inv (settingsOf w s.tree inv)) (afterLoading w inv s) := by
  cases hHelp : inv.help with
  | true =>
      rw [perform, if_pos hHelp]
      exact Or.inl rfl
  | false =>
      cases hVersion : inv.version with
      | true =>
          rw [perform, if_neg (by simp [hHelp]), if_pos hVersion]
          exact Or.inl (((still_display w _).bind fun _ => still_pure false) s)
      | false =>
          by_cases hLoads : Loads w s.tree inv.path
          · cases hList : inv.configList with
            | true =>
                rw [perform, if_neg (by simp [hHelp]), if_neg (by simp [hVersion]),
                  exec_bind_of_ok (exec_loadSettings_of_loads hLoads), if_pos hList]
                exact Or.inl (((still_listSettings w _ _).bind fun _ => still_pure false) _)
            | false =>
                exact Or.inr ⟨rfl, rfl, rfl,
                  exec_perform_of_loads hLoads hHelp hVersion hList hDir⟩
          · obtain ⟨stop, s', hStop⟩ := exec_loadSettings_of_not_loads hLoads
            rw [perform, if_neg (by simp [hHelp]), if_neg (by simp [hVersion]), exec_bind, hStop]
            exact Or.inl ((still_loadSettings w inv.path).tree_eq hStop)

/-! ## The clipboard -/

/-- Why copying a text stops a run: it breaks, or the console cannot show how it has ended. -/
def copyStop? (w : World) (t : Text) : Option Failure :=
  match w.clipboard t with
  | .copied => (w.console (copyNote none)).map .console
  | .refused why => (w.console (copyNote (some why))).map .console
  | .broken why => some (.clipboard why)

theorem exec_copyFixed (w : World) (t : Text) (s : Shell) :
    (exec (copyFixed w t) s).1 =
      match copyStop? w t with
      | none => .ok ()
      | some f => .error (.failure f) := by
  rw [copyFixed, exec_bind, exec_copy, copyStop?]
  cases w.clipboard t with
  | copied =>
      dsimp only
      rw [exec_display]
      cases w.console (copyNote none) <;> rfl
  | refused why =>
      dsimp only
      rw [exec_display]
      cases w.console (copyNote (some why)) <;> rfl
  | broken why => rfl

/-- Surroundings with another clipboard. -/
def World.withClipboard (w : World) (clipboard : Text → Copying) : World :=
  { w with clipboard := clipboard }

/-- Copying stops no run, neither in given surroundings nor with another clipboard. -/
def CopyEitherWay (w : World) (clipboard : Text → Copying) : Prop :=
  ∀ t, copyStop? w t = none ∧ copyStop? (w.withClipboard clipboard) t = none

theorem shareFixed_endsAlike (w : World) (clipboard : Text → Copying)
    (inv : Arguments.Invocation) (fixed : Text) :
    EndsAlike (CopyEitherWay w clipboard) (shareFixed (w.withClipboard clipboard) inv fixed)
      (shareFixed w inv fixed) := by
  intro s
  refine ⟨(still_shareFixed _ inv fixed s).trans (still_shareFixed w inv fixed s).symm,
    fun hWell => ?_⟩
  unfold shareFixed
  cases inv.copy with
  | true =>
      obtain ⟨hOwn, hOther⟩ := hWell fixed
      rw [if_pos rfl, if_pos rfl, exec_copyFixed, exec_copyFixed, hOwn, hOther]
  | false => rfl

/-- Questions are asked in the same way whatever the clipboard does. -/
theorem askChoices_withClipboard (w : World) (clipboard : Text → Copying) (s : Session)
    (kinds : List ChoiceKind) :
    askChoices (w.withClipboard clipboard) s kinds = askChoices w s kinds := by
  induction kinds generalizing s with
  | nil => rfl
  | cons kind kinds ih =>
      simp only [askChoices, ih]
      rfl

theorem settle_withClipboard (w : World) (clipboard : Text → Copying)
    (inv : Arguments.Invocation) (c : Config) (s : Session) :
    settle (w.withClipboard clipboard) inv c s = settle w inv c s := by
  rw [settle_eq, settle_eq, askLeft, askChoices_withClipboard]
  rfl

/-- The clipboard makes no difference to the files, nor to how linting ends if copying stops
no run. -/
theorem lintMessage_endsAlike (w : World) (clipboard : Text → Copying)
    (inv : Arguments.Invocation) (c : Config) :
    EndsAlike (CopyEitherWay w clipboard) (lintMessage (w.withClipboard clipboard) inv c)
      (lintMessage w inv c) := by
  have hRepair : ∀ log s, EndsAlike (CopyEitherWay w clipboard)
      (repair (w.withClipboard clipboard) inv c log s) (repair w inv c log s) := by
    intro log s
    rw [repair_eq, repair_eq, settle_withClipboard]
    refine EndsAlike.bind (settle w inv c s) fun s => ?_
    refine EndsAlike.bind (reportRepair w log s.current s.applyAll) fun _ => ?_
    refine EndsAlike.bind_pure ?_ _
    exact EndsAlike.bind (storeFixed w inv s.applyAll.fixed) fun _ =>
      shareFixed_endsAlike w clipboard inv s.applyAll.fixed
  rw [lintMessage_eq, lintMessage_eq]
  refine EndsAlike.bind (logPath w inv c) fun log => ?_
  refine EndsAlike.bind (openLog log) fun _ => ?_
  refine EndsAlike.bind (readMessage inv) fun text => ?_
  refine EndsAlike.bind (announce w log _) fun _ => ?_
  refine EndsAlike.bind (display w _) fun _ => ?_
  refine EndsAlike.bind_pure ?_ _
  unfold repairAsked
  split
  · exact hRepair log _
  · exact .refl _

theorem perform_endsAlike (w : World) (clipboard : Text → Copying) (inv : Arguments.Invocation)
    (hDir : inv.configDir = false) :
    EndsAlike (CopyEitherWay w clipboard) (perform (w.withClipboard clipboard) inv)
      (perform w inv) := by
  unfold perform
  split
  · exact .refl _
  split
  · exact .refl _
  refine EndsAlike.bind (loadSettings w inv.path) fun config => ?_
  split
  · exact .refl _
  rw [if_neg (by simp [hDir]), if_neg (by simp [hDir])]
  exact lintMessage_endsAlike w clipboard inv _

/-! ## Results of closed runs -/

theorem ok_of_toOption {ε α : Type} {x : Except ε α} {a : α} (h : x.toOption = some a) :
    x = .ok a := by
  cases x with
  | ok b => exact congrArg Except.ok (Option.some.inj h)
  | error e => contradiction

end CommitLint.Command
