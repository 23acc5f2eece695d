import CommitLint.Arguments.Scan
import CommitLint.Files.Tree

/-!
# What a command line asks for

The last use of an option counts.  Values are checked before anything is done,
option by option in the order of their first use, then the operand, and then
whether there are further operands.
-/

namespace CommitLint.Arguments

open Text

/-- What is asked for. -/
structure Invocation where
  messageFile : Option Files.Path
  message : Option Text
  fix : Bool
  write : Bool
  type : Option CommitType
  interactive : Bool
  copy : Bool
  strict : Bool
  logFile : Option Files.Path
  path : Files.Path
  configList : Bool
  configDir : Bool
  version : Bool
  help : Bool
  deriving DecidableEq, Repr

/-- The value of the last use of an option. -/
def lastValue (uses : List Use) (s : Switch) : Option Text :=
  (uses.reverse.find? fun u => u.switch == s).bind Use.value

/-- Whether an option was used. -/
def used (uses : List Use) (s : Switch) : Bool := uses.any fun u => u.switch == s

/-- The options in the order of their first use, each once. -/
def firstUses (uses : List Use) : List Switch :=
  uses.foldl (fun seen u => if u.switch ∈ seen then seen else seen ++ [u.switch]) []

/-- What is wrong with what a path leads to.  A file need not exist, a directory
does. -/
def PathParameter.fault? (p : PathParameter) : Option Files.Entry → Option PathFault
  | none => if p = .directory then some .missing else none
  | some (.file _) => if p = .directory then some .isFile else none
  | some .directory => if p = .directory then none else some .isDirectory

/-- Check a path. -/
def PathParameter.check (p : PathParameter) (tree : Files.Tree) (value : Text) :
    Except Misuse Unit :=
  if !Files.Path.isUsable value then .error (.unusablePath p value)
  else
    match p.fault? (tree.look value) with
    | some f => .error (.badPath p value f)
    | none => .ok ()

/-- The word that stands for the standard input. -/
def dash : Text := ['-']

/-- Check the value of an option. -/
def checkSwitch (tree : Files.Tree) (uses : List Use) (s : Switch) : Except Misuse Unit :=
  match s, lastValue uses s with
  | .type, some v => if (CommitType.ofName? v).isSome then .ok () else .error (.badType v)
  | .logFile, some v => PathParameter.logFile.check tree v
  | .path, some v => PathParameter.directory.check tree v
  | _, _ => .ok ()

/-- Check options one after another. -/
def checkSwitches (tree : Files.Tree) (uses : List Use) : List Switch → Except Misuse Unit
  | [] => .ok ()
  | s :: ss =>
    match checkSwitch tree uses s with
    | .error e => .error e
    | .ok () => checkSwitches tree uses ss

/-- Check the operands. -/
def checkOperands (tree : Files.Tree) : List Text → Except Misuse Unit
  | [] => .ok ()
  | w :: ws =>
    match if w = dash then .ok () else PathParameter.messageFile.check tree w with
    | .error e => .error e
    | .ok () => if ws.isEmpty then .ok () else .error (.extraOperands ws)

/-- What checked words ask for. -/
def ofWords (w : Words) : Invocation where
  messageFile := w.operands.head?.map Files.Path.ofText
  message := lastValue w.uses .message
  fix := used w.uses .fix
  write := used w.uses .write
  type := (lastValue w.uses .type).bind CommitType.ofName?
  interactive := used w.uses .interactive
  copy := used w.uses .copy
  strict := used w.uses .strict
  logFile := (lastValue w.uses .logFile).map Files.Path.ofText
  path := Files.Path.ofText ((lastValue w.uses .path).getD [])
  configList := used w.uses .configList
  configDir := used w.uses .configDir
  version := used w.uses .version
  help := used w.uses .help

/-- Read a command line. -/
def parse (tree : Files.Tree) (args : List Text) : Except Misuse Invocation :=
  match scan args with
  | .error e => .error e
  | .ok w =>
    match checkSwitches tree w.uses (firstUses w.uses) with
    | .error e => .error e
    | .ok () =>
      match checkOperands tree w.operands with
      | .error e => .error e
      | .ok () => .ok (ofWords w)

end CommitLint.Arguments
