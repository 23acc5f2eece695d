import CommitLint.Command.Run
import CommitLint.Config.Lemmas
import CommitLint.Proofs.FileTree

/-!
# What the steps of a run do

A run is a series of steps.  `exec` gives what a step yields and the shell that it
leaves; a series goes on after a step that yields something, and a step that stops
ends it (`exec_bind`).

Four properties carry over from steps to series.  A step may leave all files alone
(`Still`), and in general it changes files at some places only (`Touches`).  It may come
to a last stage, before which it changes files at some places only (`LeadsTo`).  Two
steps may differ in what they show and still leave the same files and end alike
(`EndsAlike`).

Linting and repairing are written as series of named stages at the end:
`lintMessage_eq`, `repair_eq` and `settle_eq`.
-/

namespace CommitLint.Command

open Text

variable {α β : Type}

namespace Step

/-! ## Running a step -/

/-- What a step yields and the shell that it leaves. -/
def exec (x : Step α) (s : Shell) : Except Stop α × Shell := x.run.run s

@[simp] theorem exec_pure (a : α) (s : Shell) : exec (pure a) s = (.ok a, s) := rfl

@[simp] theorem exec_throw (e : Stop) (s : Shell) :
    exec (throw e : Step α) s = (.error e, s) := rfl

@[simp] theorem exec_fail (f : Failure) (s : Shell) :
    exec (fail f : Step α) s = (.error (.failure f), s) := rfl

@[simp] theorem exec_get (s : Shell) : exec (get : Step Shell) s = (.ok s, s) := rfl

@[simp] theorem exec_modify (f : Shell → Shell) (s : Shell) :
    exec (modify f : Step Unit) s = (.ok (), f s) := rfl

/-- **Running a series**: it goes on with what its first step yields, unless that
stops. -/
theorem exec_bind (x : Step α) (f : α → Step β) (s : Shell) :
    exec (x >>= f) s =
      match exec x s with
      | (.ok a, s') => exec (f a) s'
      | (.error e, s') => (.error e, s') := by
  have hRun : exec (x >>= f) s =
      (match (exec x s).1 with
        | .ok a => exec (f a) (exec x s).2
        | .error e => (.error e, (exec x s).2)) := by
    show (ExceptT.bindCont f (x.run.run s).1).run (x.run.run s).2 = _
    unfold exec
    cases (x.run.run s).1 <;> rfl
  rw [hRun]
  obtain ⟨r, s'⟩ := exec x s
  cases r <;> rfl

theorem exec_bind_of_ok {x : Step α} {s s' : Shell} {a : α} (h : exec x s = (.ok a, s'))
    (f : α → Step β) : exec (x >>= f) s = exec (f a) s' := by
  rw [exec_bind, h]

/-- A series that finishes has gone through all its steps. -/
theorem exec_bind_eq_ok {x : Step α} {f : α → Step β} {s t : Shell} {b : β}
    (h : exec (x >>= f) s = (.ok b, t)) :
    ∃ a s', exec x s = (.ok a, s') ∧ exec (f a) s' = (.ok b, t) := by
  rw [exec_bind] at h
  split at h
  · rename_i a s' hx
    exact ⟨a, s', hx, h⟩
  · simp at h

theorem forM_cons (f : α → Step Unit) (a : α) (l : List α) :
    (a :: l).forM f = f a >>= fun _ => l.forM f := rfl

/-! ## The primitive steps -/

theorem exec_stopFor (failure : Text → Failure) (reason : Option Text) (s : Shell) :
    exec (stopFor failure reason) s =
      match reason with
      | none => (.ok (), s)
      | some why => (.error (.failure (failure why)), s) := by
  cases reason <;> rfl

/-- A step that may be stopped for a reason goes on only if there is none. -/
theorem exec_stopFor_bind (failure : Text → Failure) (reason : Option Text)
    (x : Unit → Step α) (s : Shell) :
    exec (stopFor failure reason >>= x) s =
      match reason with
      | none => exec (x ()) s
      | some why => (.error (.failure (failure why)), s) := by
  rw [exec_bind, exec_stopFor]
  cases reason <;> rfl

theorem exec_display (w : World) (item : Report.Item) (s : Shell) :
    exec (display w item) s =
      match w.console item with
      | none => (.ok (), { s with console := s.console ++ [item] })
      | some why => (.error (.failure (.console why)), s) := by
  rw [display, exec_stopFor_bind]
  cases w.console item <;> rfl

theorem exec_display_eq_ok {w : World} {item : Report.Item} {s s' : Shell}
    (h : exec (display w item) s = (.ok (), s')) :
    w.console item = none ∧ s' = { s with console := s.console ++ [item] } := by
  rw [exec_display] at h
  cases hShown : w.console item with
  | none =>
      rw [hShown, Prod.mk.injEq] at h
      exact ⟨rfl, h.2.symm⟩
  | some why => simp [hShown] at h

theorem exec_display_of_shown {w : World} {item : Report.Item} (h : w.console item = none)
    (s : Shell) : exec (display w item) s = (.ok (), { s with console := s.console ++ [item] }) := by
  rw [exec_display, h]

theorem exec_tell (w : World) (notices : List Notice) (s : Shell) :
    exec (tell w notices) s =
      match w.untold? notices with
      | none => (.ok (), { s with notices := s.notices ++ notices })
      | some why =>
        (.error (.failure (.encoding why)), { s with notices := s.notices ++ w.told notices }) := by
  rw [tell, exec_bind, exec_modify]
  dsimp only
  rw [exec_stopFor]
  cases hUntold : w.untold? notices with
  | none => rw [Host.told_of_untold? hUntold]
  | some why => rfl

theorem exec_print (w : World) (t : Text) (s : Shell) :
    exec (print w t) s =
      match w.echo t with
      | none => (.ok (), { s with stdout := s.stdout ++ t })
      | some why => (.error (.failure (.output why)), s) := by
  rw [print, exec_stopFor_bind]
  cases w.echo t <;> rfl

@[simp] theorem exec_readClock (w : World) (s : Shell) :
    exec (readClock w) s = (.ok (w.clock s.readings), { s with readings := s.readings + 1 }) := rfl

theorem exec_change (path : Text) (f : Files.Tree → Except Files.Failure Files.Tree) (s : Shell) :
    exec (change path f) s =
      match f s.tree with
      | .ok tree => (.ok (), { s with tree := tree })
      | .error e => (.error (.failure (.files e path)), s) := by
  rw [change, exec_bind, exec_get]
  dsimp only
  cases f s.tree <;> rfl

theorem exec_writeOn (w : World) (e : Encoding) (path t : Text) (s : Shell) :
    exec (writeOn w e path t) s =
      match w.refusal? e t with
      | none => exec (change path (·.append path t)) s
      | some why => (.error (.failure (.encoding why)), s) := by
  rw [writeOn, exec_stopFor_bind]

theorem exec_readFile (path : Text) (s : Shell) :
    exec (readFile path) s =
      match s.tree.read path with
      | .ok content => (.ok (unifyLineEnds content), s)
      | .error e => (.error (.failure (.files e path)), s) := by
  rw [readFile, exec_bind, exec_get]
  dsimp only
  cases s.tree.read path <;> rfl

theorem exec_makeParent (path : Files.Path) (s : Shell) :
    exec (makeParent path) s =
      match s.tree.makeDirectories path.absolute path.parent.parts.reverse with
      | .ok tree => (.ok (), { s with tree := tree })
      | .error (e, place) => (.error (.failure (.files e place)), s) := by
  rw [makeParent, exec_bind, exec_get]
  dsimp only
  cases s.tree.makeDirectories path.absolute path.parent.parts.reverse <;> rfl

theorem exec_copy (w : World) (t : Text) (s : Shell) :
    exec (copy w t) s =
      match w.clipboard t with
      | .copied => (.ok none, { s with clipboard := s.clipboard ++ [t] })
      | .refused why => (.ok (some why), s)
      | .broken why => (.error (.failure (.clipboard why)), s) := by
  unfold copy
  cases w.clipboard t <;> rfl

/-! ## Steps that leave the files alone -/

/-- A step leaves all files alone, whether it stops or not. -/
def Still (x : Step α) : Prop := ∀ s, (exec x s).2.tree = s.tree

theorem Still.tree_eq {x : Step α} (h : Still x) {s s' : Shell} {r : Except Stop α}
    (hRun : exec x s = (r, s')) : s'.tree = s.tree := by
  rw [← h s, hRun]

theorem Still.bind {x : Step α} {f : α → Step β} (hx : Still x) (hf : ∀ a, Still (f a)) :
    Still (x >>= f) := by
  intro s
  rw [exec_bind]
  split
  · rename_i a s' hRun
    exact (hf a s').trans (hx.tree_eq hRun)
  · rename_i e s' hRun
    exact hx.tree_eq hRun

theorem still_pure (a : α) : Still (pure a : Step α) := fun _ => rfl

theorem still_get : Still (get : Step Shell) := fun _ => rfl

theorem still_throw (e : Stop) : Still (throw e : Step α) := fun _ => rfl

theorem still_fail (f : Failure) : Still (fail f : Step α) := fun _ => rfl

theorem still_display (w : World) (item : Report.Item) : Still (display w item) := by
  intro s
  rw [exec_display]
  split <;> rfl

theorem still_tell (w : World) (notices : List Notice) : Still (tell w notices) := by
  intro s
  rw [exec_tell]
  split <;> rfl

theorem still_print (w : World) (t : Text) : Still (print w t) := by
  intro s
  rw [exec_print]
  split <;> rfl

theorem still_readClock (w : World) : Still (readClock w) := fun _ => rfl

theorem still_readInput : Still readInput := fun _ => rfl

theorem still_copy (w : World) (t : Text) : Still (copy w t) := by
  intro s
  rw [exec_copy]
  split <;> rfl

theorem still_readFile (path : Text) : Still (readFile path) := by
  intro s
  rw [exec_readFile]
  split <;> rfl

theorem still_forM {f : α → Step Unit} (hf : ∀ a, Still (f a)) (l : List α) :
    Still (l.forM f) := by
  induction l with
  | nil => exact still_pure ()
  | cons a l ih => exact (hf a).bind fun _ => ih

/-! ## Steps that change some files -/

/-- A step changes files at some places only, whether it stops or not. -/
def Touches (places : Files.Place → Prop) (x : Step α) : Prop :=
  ∀ s : Shell, s.tree.ChangedAt places (exec x s).2.tree

variable {places : Files.Place → Prop}

theorem Touches.changedAt {x : Step α} (h : Touches places x) {s s' : Shell} {r : Except Stop α}
    (hRun : exec x s = (r, s')) : s.tree.ChangedAt places s'.tree := by
  have hChanged := h s
  rwa [hRun] at hChanged

theorem Still.touches {x : Step α} (h : Still x) (places : Files.Place → Prop) :
    Touches places x := by
  intro s
  rw [h s]
  exact .refl _ _

theorem Touches.mono {x : Step α} {more : Files.Place → Prop} (h : Touches places x)
    (hMore : ∀ q, places q → more q) : Touches more x := fun s => (h s).mono hMore

theorem Touches.bind {x : Step α} {f : α → Step β} (hx : Touches places x)
    (hf : ∀ a, Touches places (f a)) : Touches places (x >>= f) := by
  intro s
  rw [exec_bind]
  split
  · rename_i a s' hRun
    exact (hx.changedAt hRun).trans (hf a s')
  · rename_i e s' hRun
    exact hx.changedAt hRun

theorem touches_forM {f : α → Step Unit} (hf : ∀ a, Touches places (f a)) (l : List α) :
    Touches places (l.forM f) := by
  induction l with
  | nil => exact (still_pure ()).touches places
  | cons a l ih => exact (hf a).bind fun _ => ih

theorem touches_makeParent (path : Files.Path) : Touches places (makeParent path) := by
  intro s
  rw [exec_makeParent]
  split
  · rename_i tree hMade
    exact .makeDirectories hMade
  · exact .refl _ _

theorem touches_change (path : Text) (f : Text → Text) :
    Touches (· = Files.placeOf path) (change path (·.modify path f)) := by
  intro s
  rw [exec_change]
  split
  · rename_i tree hChanged
    exact .modify hChanged
  · exact .refl _ _

theorem touches_writeOn (w : World) (e : Encoding) (path t : Text) :
    Touches (· = Files.placeOf path) (writeOn w e path t) := by
  intro s
  rw [exec_writeOn]
  split
  · exact touches_change path _ s
  · exact .refl _ _

theorem touches_appendFile (w : World) (path t : Text) :
    Touches (· = Files.placeOf path) (appendFile w path t) :=
  (touches_change path _).bind fun _ => touches_writeOn w _ path t

/-! ## Steps that come to a last stage -/

/-- From a shell, a step either changes files at some places only, or it comes to one of some
last stages: until then it has changed files at these places only, and it ends as the stage
does. -/
def LeadsTo (places : Files.Place → Prop) (last : Step Unit → Prop) (x : Step α) (s : Shell) :
    Prop :=
  s.tree.ChangedAt places (exec x s).2.tree ∨
    ∃ y t, last y ∧ s.tree.ChangedAt places t.tree ∧ (exec x s).2 = (exec y t).2 ∧
      ∀ e, (exec x s).1 = .error e ↔ (exec y t).1 = .error e

variable {last : Step Unit → Prop}

theorem LeadsTo.of_touches {x : Step α} (h : Touches places x) (s : Shell) :
    LeadsTo places last x s := Or.inl (h s)

theorem LeadsTo.of_last {y : Step Unit} (hLast : last y) (b : β) (s : Shell) :
    LeadsTo places last (y >>= fun _ => pure b) s := by
  refine Or.inr ⟨y, s, hLast, .refl _ _, ?_⟩
  rw [exec_bind]
  split
  · rename_i u s' hRun
    simp [hRun]
  · rename_i e s' hRun
    simp [hRun]

/-- A first step comes before the last stage. -/
theorem LeadsTo.bind {x : Step α} {f : α → Step β} {s : Shell} (hx : Touches places x)
    (hf : ∀ a s', exec x s = (.ok a, s') → LeadsTo places last (f a) s') :
    LeadsTo places last (x >>= f) s := by
  unfold LeadsTo
  rw [exec_bind]
  split
  · rename_i a s' hRun
    have hFirst := hx.changedAt hRun
    rcases hf a s' hRun with hChanged | ⟨y, t, hLast, hChanged, hEnd⟩
    · exact Or.inl (hFirst.trans hChanged)
    · exact Or.inr ⟨y, t, hLast, hFirst.trans hChanged, hEnd⟩
  · rename_i e s' hRun
    exact Or.inl (hx.changedAt hRun)

/-- What is only computed from the result comes after the last stage. -/
theorem LeadsTo.bind_pure {x : Step α} {s : Shell} (h : LeadsTo places last x s) (g : α → β) :
    LeadsTo places last (x >>= fun a => pure (g a)) s := by
  unfold LeadsTo at h ⊢
  rw [exec_bind]
  generalize exec x s = ended at h
  obtain ⟨r, s'⟩ := ended
  cases r with
  | ok a => simpa using h
  | error e => simpa using h

/-! ## Steps that end alike -/

/-- Two steps leave the same files.  If a condition holds, they yield the same or stop for the
same reason as well. -/
def EndsAlike (condition : Prop) (x y : Step α) : Prop :=
  ∀ s, (exec x s).2.tree = (exec y s).2.tree ∧ (condition → (exec x s).1 = (exec y s).1)

variable {condition : Prop}

theorem EndsAlike.refl (x : Step α) : EndsAlike condition x x := fun _ => ⟨rfl, fun _ => rfl⟩

theorem EndsAlike.bind (x : Step α) {f g : α → Step β}
    (h : ∀ a, EndsAlike condition (f a) (g a)) : EndsAlike condition (x >>= f) (x >>= g) := by
  intro s
  rw [exec_bind, exec_bind]
  split
  · rename_i a s' hRun
    exact h a s'
  · exact ⟨rfl, fun _ => rfl⟩

/-- What is only computed from the result does not see the difference. -/
theorem EndsAlike.bind_pure {x y : Step α} (h : EndsAlike condition x y) (g : α → β) :
    EndsAlike condition (x >>= fun a => pure (g a)) (y >>= fun a => pure (g a)) := by
  intro s
  have hEnd := h s
  rw [exec_bind, exec_bind]
  generalize exec x s = first at hEnd
  generalize exec y s = second at hEnd
  obtain ⟨r, s'⟩ := first
  obtain ⟨r', t⟩ := second
  obtain ⟨hTree, hResult⟩ := hEnd
  refine ⟨?_, fun hCondition => ?_⟩
  · cases r <;> cases r' <;> exact hTree
  · obtain rfl : r = r' := hResult hCondition
    cases r <;> rfl

end Step

/-! ## Linting and repairing as series of stages -/

open Step

/-- Make the directory of the log file, if there is one. -/
def openLog (log : Option Files.Path) : Step Unit :=
  match log with
  | some p => makeParent p
  | none => pure ()

/-- Tell and show what a repair has made of a text. -/
def reportRepair (w : World) (log : Option Files.Path) (before : Text) (s : Session) :
    Step Unit := do
  announce w log (.fixed before s.fixed)
  display w (Report.fixedMessage s.fixed)
  display w (.markup "\n[bold]After fixing:[/bold]".toList)
  display w (Report.issues s.issues)

/-- Write a repaired message back, if asked to. -/
def storeFixed (w : World) (inv : Arguments.Invocation) (fixed : Text) : Step Unit :=
  if inv.write then writeBack w inv fixed else pure ()

/-- Copy a repaired message, if asked to. -/
def shareFixed (w : World) (inv : Arguments.Invocation) (fixed : Text) : Step Unit :=
  if inv.copy then copyFixed w fixed else pure ()

/-- Hand a repaired message over: to its file or the standard output, and to the clipboard. -/
def handOver (w : World) (inv : Arguments.Invocation) (fixed : Text) : Step Unit := do
  storeFixed w inv fixed
  shareFixed w inv fixed

/-- Repair a session, if asked to. -/
def repairAsked (w : World) (inv : Arguments.Invocation) (c : Config)
    (log : Option Files.Path) (s : Session) : Step Session :=
  if inv.fix || inv.write || c.autoFix then repair w inv c log s else pure s

theorem lintMessage_eq (w : World) (inv : Arguments.Invocation) (c : Config) :
    lintMessage w inv c = (do
      let log ← logPath w inv c
      openLog log
      let text ← readMessage inv
      let s := Session.empty.update text
      announce w log (.linted s.current s.issues)
      display w (Report.issues s.issues)
      let s ← repairAsked w inv c log s
      pure (fails c.strict s.issues)) := by
  unfold lintMessage
  refine congrArg _ (funext fun log => ?_)
  cases log with
  | none =>
    unfold openLog repairAsked
    dsimp only
    rw [pure_bind]
    split <;> rfl
  | some p =>
    unfold openLog repairAsked
    dsimp only
    split <;> rfl

theorem repair_eq (w : World) (inv : Arguments.Invocation) (c : Config)
    (log : Option Files.Path) (s : Session) :
    repair w inv c log s = (do
      let s ← settle w inv c s
      reportRepair w log s.current s.applyAll
      handOver w inv s.applyAll.fixed
      pure s.applyAll) := by
  unfold repair reportRepair handOver storeFixed shareFixed
  refine congrArg _ (funext fun s => ?_)
  dsimp only
  simp only [bind_assoc]
  cases inv.write <;> cases inv.copy <;> simp

/-- The session with the type that the settings or the options give. -/
def withDefault (c : Config) (s : Session) : Session :=
  match c.defaultType with
  | some k => s.choose .type k
  | none => s

/-- Ask the user for the decisions that are left, if that is wanted. -/
def askLeft (w : World) (inv : Arguments.Invocation) (s : Session) : Step Session :=
  if inv.interactive && !s.hasAllChoices then askChoices w s s.required else pure s

/-- Tell the user that some decision is still left. -/
def warnLeft (w : World) (s : Session) : Step Session := do
  if !s.hasAllChoices then
    display w (Report.colored .yellow
      "Some fixes need a commit type. Use --type or --interactive to apply them.".toList)
  pure s

theorem settle_eq (w : World) (inv : Arguments.Invocation) (c : Config) (s : Session) :
    settle w inv c s = askLeft w inv (withDefault c s) >>= warnLeft w := by
  unfold settle withDefault askLeft
  cases c.defaultType with
  | none =>
      dsimp only
      split <;> rfl
  | some k =>
      dsimp only
      split <;> rfl

/-! ## The course of a run -/

/-- How a run goes, before it is told how that ends. -/
def course (w : World) (tree : Files.Tree) (args : List Text) : Except Stop Bool × Shell :=
  match Arguments.parse tree args with
  | .error m => (.error (.misuse m), Shell.start w tree)
  | .ok inv => exec (perform w inv) (Shell.start w tree)

theorem run_eq (w : World) (tree : Files.Tree) (args : List Text) :
    run w tree args = conclude w (course w tree args) := by
  unfold run course
  cases Arguments.parse tree args <;> rfl

/-- The exit status of a result. -/
def exitStatus : Except Stop Bool → Nat
  | .ok failed => if failed then 1 else 0
  | .error (.misuse m) => m.status
  | .error (.failure _) => 1

theorem exit_conclude (w : World) (r : Except Stop Bool × Shell) :
    (conclude w r).exit = exitStatus r.1 := by
  unfold conclude exitStatus
  split
  · rfl
  · rfl
  · split <;> rfl

theorem tree_conclude (w : World) (r : Except Stop Bool × Shell) :
    (conclude w r).tree = r.2.tree := by
  unfold conclude
  split
  · rfl
  · rfl
  · split <;> rfl

end CommitLint.Command
