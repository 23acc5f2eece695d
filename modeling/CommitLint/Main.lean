import CommitLint.Command.Run
import CommitLint.Report.Plain
import Std.Time.Zoned

/-!
# The command line

The program looks at the places that its command line and its settings name,
runs on what it has found there, and carries out the changes of the run.  It
uses no clipboard.
-/

namespace CommitLint

open Text

/-- Read the variables that hold settings. -/
def readEnvironment : IO Environment :=
  Config.settingVariables.filterMapM fun (name, _) => do
    let value ← IO.getEnv (String.ofList name)
    pure (value.map fun v => (name, v.toList))

/-- Read the clock. -/
def readClock : IO Moment := do
  let t ← Std.Time.PlainDateTime.now
  pure ⟨t.year.toInt.toNat, t.month.toNat, t.day.toNat, t.hour.val.toNat, t.minute.val.toNat,
    t.second.val.toNat⟩

/-- Follow steps from a place, whose path is given, and add what is there to a
tree. -/
def lookAlong (tree : Files.Tree) (place : Files.Place) (path : Text) :
    List Text → IO Files.Tree
  | [] => pure tree
  | step :: steps => do
    let place := place.step step
    let path := path ++ step
    let here := (← IO.currentDir) / String.ofList path
    if ← here.isDir then
      lookAlong { tree with directories := tree.directories ++ [place] } place
        (path ++ ['/']) steps
    else if ← here.pathExists then
      pure (tree.put place (← IO.FS.readFile here).toList)
    else pure tree

/-- Add what a path leads to, and what is on the way there, to a tree. -/
def lookAt (tree : Files.Tree) (path : Text) : IO Files.Tree :=
  lookAlong tree (.start path) [] (pieces '/' path)

/-- The words of a command line that are used as paths. -/
def pathWords (args : List Text) : List Text :=
  match Arguments.scan args with
  | .error _ => []
  | .ok w =>
    w.operands ++ w.uses.filterMap fun u =>
      if u.switch = .logFile || u.switch = .path then u.value else none

/-- The paths that settings lead to. -/
def settingPaths (w : Command.World) (inv : Arguments.Invocation) (tree : Files.Tree) :
    List Text :=
  let config := (Config.load w.toHost tree inv.path).1
  ((config.logPath (w.clock 0)).1.map Files.Path.toText).toList

/-- Whether a command line reads the standard input. -/
def readsInput (inv : Arguments.Invocation) : Bool :=
  inv.interactive || (inv.message.isNone && inv.messageFile.any Command.isDash)

/-- Find what a run needs, apart from files and the standard input. -/
def readWorld : IO Command.World := do
  let directory ← IO.currentDir
  pure { Command.World.calm (← readEnvironment) (← readClock) with
    directory := directory.toString.toList
    clipboard := fun _ => .refused "no clipboard".toList
    installed := some Report.currentVersion
    location := ((← IO.appPath).parent.getD directory).toString.toList }

/-- Carry out the changes of a run. -/
def carryOut (before after : Files.Tree) : IO Unit := do
  for path in Files.Tree.newDirectories before after do
    IO.FS.createDirAll (String.ofList path)
  for (path, content) in Files.Tree.changedFiles before after do
    IO.FS.writeFile (String.ofList path) (String.ofList content)

/-- Show what is seen of a run. -/
def showOutcome (o : Command.Outcome) : IO Unit := do
  for n in o.notices do
    IO.println (String.ofList n.message)
  for item in o.console do
    IO.println (String.ofList item.plain)
  IO.print (String.ofList o.stdout)
  IO.eprint (String.ofList o.stderr)
  for why in o.escaped do
    IO.eprintln (String.ofList why)

/-- Run the program. -/
def runProgram (args : List Text) : IO UInt32 := do
  let world ← readWorld
  let tree ← (pathWords args).foldlM lookAt ⟨[], []⟩
  let (world, tree) ←
    match Arguments.parse tree args with
    | .error _ => pure (world, tree)
    | .ok inv => do
      let tree ← lookAt tree (Config.filePath inv.path).toText
      let tree ← (settingPaths world inv tree).foldlM lookAt tree
      let input ← if readsInput inv then (← IO.getStdin).readToEnd else pure ""
      pure ({ world with stdin := input.toList }, tree)
  let outcome := Command.run world tree args
  carryOut tree outcome.tree
  showOutcome outcome
  pure outcome.exit.toUInt32

end CommitLint

def main (args : List String) : IO UInt32 :=
  CommitLint.runProgram (args.map String.toList)
