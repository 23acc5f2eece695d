import CommitLint.Command.Shell
import CommitLint.Session

/-!
# Runs

A run lints one message, from an option, a file or the standard input.  With
`--fix`, with `--write`, or if the settings say so, it repairs the message and
lints the result; the exit status is about the last text linted.  Writing puts
the result back into the file, or on the standard output if the message did
not come from a file.

Options win over settings.  Observers hear of every event before the result is
shown: the console always, a log file if one is asked for.

A failure ends a run early and is shown, except where it comes to the clipboard
that a repaired message is copied to.  Writing back comes late, but it is not the
last thing that can fail.
-/

namespace CommitLint.Command

open Text Step

/-! ## Settings -/

/-- Whether a path is too long to be followed, as a whole or in one of its steps. -/
def isTooLong (h : Host) (tree : Files.Tree) (p : Files.Path) : Bool :=
  Files.Tree.byteSize (h.shown p) > Files.Tree.maxPathSize ||
    match tree.find p.toText with
    | .error .nameTooLong => true
    | _ => false

/-- Look for the configuration file of a directory.  A file that cannot be found is
none, but a path that is too long to be followed is a failure. -/
def findSettings (w : World) (directory : Files.Path) : Step (Option Files.Entry) := do
  let file := Config.filePath directory
  let tree := (← get).tree
  if isTooLong w.toHost tree file then fail (.files .nameTooLong (w.shown file))
  else pure (tree.look file.toText)

/-- Load the configuration of a directory and tell what there is to tell. -/
def loadSettings (w : World) (directory : Files.Path) : Step Config := do
  let _ ← findSettings w directory
  let (c, notices) := Config.load w.toHost (← get).tree directory
  tell w notices
  pure c

/-- Save a configuration in a directory, line by line. -/
def saveSettings (w : World) (c : Config) (directory : Files.Path) : Step Unit := do
  let file := Config.filePath directory
  tell w c.savableLogFile.2
  match (← get).tree.write file.toText [] with
  | .error f => tell w [.unwritable (f.message (w.shown file))]
  | .ok tree =>
    modify fun s => { s with tree := tree }
    c.savedLines.forM (writeOn w .utf8 file.toText)

/-- A truth value in words. -/
def boolWord (b : Bool) : Text := (if b then "True" else "False").toList

/-- A text, or the word for nothing. -/
def orNone (t : Option Text) : Text := t.getD "None".toList

/-- The settings by name, in words. -/
def settingWords (c : Config) : List (Text × Text) :=
  Config.fieldNames.zip
    [boolWord c.strict, boolWord c.autoFix, orNone (c.defaultType.map CommitType.name),
      boolWord c.alwaysLog, orNone c.logFile]

/-- A row of the list of settings. -/
def settingRow (name value source : Text) : Text :=
  fillRight 20 name ++ ' ' :: fillRight 20 value ++ ' ' :: fillRight 10 source

/-- Show all settings. -/
def listSettings (w : World) (c : Config) (directory : Files.Path) : Step Unit := do
  display w (.markup "\n[bold]Current Configuration Settings:[/bold]".toList)
  let known := (← findSettings w directory).isSome
  if known then
    display w (.markup ("[dim]Config file: ".toList ++ w.shown (Config.filePath directory) ++
      "[/dim]".toList))
  else
    display w (.markup "[dim]Using default values (no config file found)[/dim]".toList)
  display w (.markup ('\n' :: settingRow "Setting".toList "Value".toList "Source".toList))
  display w (.markup (List.replicate 50 '-'))
  let source := (if known then "config" else "default").toList
  (settingWords c).forM fun (name, value) => display w (.markup (settingRow name value source))
  display w (.markup ("\nTo modify these settings, create or edit ".toList ++ Config.fileName ++
    " in the working directory".toList))

/-- Show where the settings are kept, making the file if there is none. -/
def showPlace (w : World) (directory : Files.Path) : Step Unit := do
  let place := w.shown (Config.filePath directory)
  if (← findSettings w directory).isNone then
    let (defaults, notices) := Config.ofDefaults w.environment
    tell w notices
    saveSettings w defaults directory
    display w (Report.colored .yellow "Created new config file with default values".toList)
  match ← copy w place with
  | some why => fail (.clipboard why)
  | none =>
    display w (.markup ("[green]Config file location:[/green] ".toList ++ place))
    display w (Report.colored .green "Path copied to clipboard!".toList)

/-- Settings with the options of a command line. -/
def withOptions (inv : Arguments.Invocation) (c : Config) : Config :=
  { c with
    strict := c.strict || inv.strict
    defaultType := inv.type.or c.defaultType
    logFile := (inv.logFile.map Files.Path.toText).or c.logFile }

/-! ## Linting and fixing -/

/-- The file to log to.  The clock is read if the file is named for the moment. -/
def logPath (w : World) (inv : Arguments.Invocation) (c : Config) : Step (Option Files.Path) :=
  match inv.logFile with
  | some p => pure (some p)
  | none => do
    let (path, notices) := c.logPath (w.clock (← get).readings)
    if c.alwaysLog then discard <| readClock w
    tell w notices
    pure path

/-- Add the record of a message to the log. -/
def addRecord (w : World) (p : Files.Path) (message : Text) : Step Unit := do
  let now ← readClock w
  appendFile w p.toText (Log.record now message)

/-- Log an event, record by record. -/
def logEvent (w : World) (p : Files.Path) (e : Log.Event) : Step Unit :=
  e.messages.forM (addRecord w p)

/-- Tell the observers of an event. -/
def announce (w : World) (log : Option Files.Path) (e : Log.Event) : Step Unit := do
  display w e.announcement
  match log with
  | none => pure ()
  | some p => logEvent w p e

/-- The path that stands for the standard input. -/
def isDash (p : Files.Path) : Bool := p.toText == Arguments.dash

/-- Get the message. -/
def readMessage (inv : Arguments.Invocation) : Step Text :=
  match inv.message, inv.messageFile with
  | some t, _ => pure t
  | none, none => throw (.misuse .noMessage)
  | none, some p => if isDash p then readInput else readFile p.toText

/-- Ask for a commit type, over the lines of the input: what is printed, one text after
another, and the answer with the lines that are left. -/
def askType : List Text → List Text × Option (CommitType × List Text)
  | [] => (["Commit type: ".toList], none)
  | l :: ls =>
    let asked := ["Commit type: ".toList, l ++ ['\n']]
    if l.isEmpty then
      let (more, answer) := askType ls
      (asked ++ more, answer)
    else
      match CommitType.ofName? l with
      | some k => (asked, some (k, ls))
      | none =>
        let (more, answer) := askType ls
        (asked ++ ("Error: ".toList ++ Arguments.notAType l ++ ['\n']) :: more, answer)

/-- The lines of an input; a line feed at its end begins no further line. -/
def inputLines (t : Text) : List Text :=
  let ls := lines t
  if ls.getLast? = some [] then ls.dropLast else ls

/-- Ask for the decisions of some kinds. -/
def askChoices (w : World) (s : Session) : List ChoiceKind → Step Session
  | [] => pure s
  | kind :: kinds => do
    display w (Report.choice kind (s.choices.get kind))
    let (printed, answer) := askType (inputLines (← get).input)
    printed.forM (print w)
    match answer with
    | none => fail .inputEnds
    | some (k, left) =>
      modify fun sh => { sh with input := left.flatMap (· ++ ['\n']) }
      askChoices w (s.choose kind k) kinds

/-- Make decisions: the default type first, then the user's answers. -/
def settle (w : World) (inv : Arguments.Invocation) (c : Config) (s : Session) :
    Step Session := do
  let s :=
    match c.defaultType with
    | some k => s.choose .type k
    | none => s
  let s ← if inv.interactive && !s.hasAllChoices then askChoices w s s.required else pure s
  if !s.hasAllChoices then
    display w (Report.colored .yellow
      "Some fixes need a commit type. Use --type or --interactive to apply them.".toList)
  pure s

/-- What is shown when a message has been written to its file. -/
def writtenNote (p : Files.Path) : Report.Item :=
  Report.colored .green ("Wrote fixed message to ".toList ++ p.toText)

/-- What is shown when copying has come to an end: done, or why there is no clipboard. -/
def copyNote : Option Text → Report.Item
  | none => Report.colored .green "Fixed message copied to clipboard!".toList
  | some why =>
    Report.colored .yellow ("Warning: Could not copy to clipboard: ".toList ++ why)

/-- Put the repaired message where it belongs. -/
def writeBack (w : World) (inv : Arguments.Invocation) (fixed : Text) : Step Unit :=
  match inv.messageFile with
  | none => echo w fixed
  | some p =>
    if isDash p then echo w fixed
    else do
      writeFile w p.toText (fixed ++ ['\n'])
      display w (writtenNote p)

/-- Copy the repaired message; it does not matter if there is no clipboard. -/
def copyFixed (w : World) (fixed : Text) : Step Unit := do
  display w (copyNote (← copy w fixed))

/-- Repair the message of a session. -/
def repair (w : World) (inv : Arguments.Invocation) (c : Config)
    (log : Option Files.Path) (s : Session) : Step Session := do
  let s ← settle w inv c s
  let before := s.current
  let s := s.applyAll
  announce w log (.fixed before s.fixed)
  display w (Report.fixedMessage s.fixed)
  display w (.markup "\n[bold]After fixing:[/bold]".toList)
  display w (Report.issues s.issues)
  if inv.write then writeBack w inv s.fixed
  if inv.copy then copyFixed w s.fixed
  pure s

/-- Whether the issues fail a message. -/
def fails (strict : Bool) (issues : List Issue) : Bool :=
  if strict then !issues.isEmpty else issues.any Issue.isError

/-- Lint a message and repair it if asked to; tells whether it fails. -/
def lintMessage (w : World) (inv : Arguments.Invocation) (c : Config) : Step Bool := do
  let log ← logPath w inv c
  match log with
  | some p => makeParent p
  | none => pure ()
  let text ← readMessage inv
  let s := Session.empty.update text
  announce w log (.linted s.current s.issues)
  display w (Report.issues s.issues)
  let s ← if inv.fix || inv.write || c.autoFix then repair w inv c log s else pure s
  pure (fails c.strict s.issues)

/-- Do what a command line asks for; tells whether the run fails. -/
def perform (w : World) (inv : Arguments.Invocation) : Step Bool := do
  if inv.help then pure false
  else if inv.version then
    display w (Report.versions w.installed w.location)
    pure false
  else
    let config ← loadSettings w inv.path
    if inv.configList then
      listSettings w config inv.path
      pure false
    else if inv.configDir then
      showPlace w inv.path
      pure false
    else lintMessage w inv (withOptions inv config)

/-! ## Results -/

/-- What is seen of a run when it is over. -/
structure Outcome where
  exit : Nat
  console : List Report.Item
  notices : List Notice
  stdout : Text
  stderr : Text
  clipboard : List Text
  tree : Files.Tree
  /-- What ends the run if even a failure cannot be shown; the report of this on the
  error output is left out. -/
  escaped : Option Text

/-- What is seen of a shell, with an exit status and an error output. -/
def Outcome.of (exit : Nat) (stderr : Text) (s : Shell) : Outcome :=
  ⟨exit, s.console, s.notices, foldCarriageReturns s.stdout, foldCarriageReturns stderr,
    s.clipboard, s.tree, none⟩

/-- The error output of a misuse. -/
def misuseText (m : Arguments.Misuse) : Text :=
  if m.message.isEmpty then []
  else withoutSequences ("Error: ".toList ++ m.message) ++ ['\n']

/-- The console's line for a failure. -/
def failureItem (f : Failure) : Report.Item :=
  Report.colored .red ("Error: ".toList ++ f.message)

/-- How a run ends. -/
def conclude (w : World) : Except Stop Bool × Shell → Outcome
  | (.ok failed, s) => .of (if failed then 1 else 0) [] s
  | (.error (.misuse m), s) => .of m.status (misuseText m) s
  | (.error (.failure f), s) =>
    match w.console (failureItem f) with
    | none => .of 1 "Aborted!\n".toList { s with console := s.console ++ [failureItem f] }
    | some why => { Outcome.of 1 [] s with escaped := some why }

/-- Run the program on a command line. -/
def run (w : World) (tree : Files.Tree) (args : List Text) : Outcome :=
  match Arguments.parse tree args with
  | .error m => conclude w (.error (.misuse m), Shell.start w tree)
  | .ok inv => conclude w ((perform w inv).run.run (Shell.start w tree))

end CommitLint.Command
