import CommitLint.Arguments.Invocation
import CommitLint.Config.Store
import CommitLint.Log
import CommitLint.Report.Issues
import CommitLint.Report.Version

/-!
# The surroundings of a run

A run of the program reads its surroundings, and it changes the state of a
shell: the files, what is on the console and on the standard output, what has
been copied, how much of the standard input is left, and how often the clock
has been read.  It may stop early because of a misuse or because something
fails; what it has done until then stays done.

Much can fail.  The console does not take markup that does not make sense to
it, the standard output and the files have encodings that refuse some texts,
and a clipboard may be missing or break.  What becomes of a text at each of
these is part of the surroundings.
-/

namespace CommitLint.Command

open Text

/-- What becomes of a text that is to be copied. -/
inductive Copying where
  | copied
  /-- There is no clipboard to be used. -/
  | refused (why : Text)
  /-- Something else goes wrong. -/
  | broken (why : Text)
  deriving DecidableEq, Repr

/-- What a run finds. -/
structure World extends Host where
  /-- What the clock says, reading by reading. -/
  clock : Nat → Moment
  stdin : Text
  /-- Why the console cannot show an object. -/
  console : Report.Item → Option Text
  /-- Why a text cannot be put on the standard output. -/
  echo : Text → Option Text
  clipboard : Text → Copying
  /-- The encoding of files for which the program does not choose one. -/
  locale : Encoding
  /-- The version that the package records know. -/
  installed : Option Text
  /-- Where the program is installed. -/
  location : Text

/-- Surroundings that take every text, at a moment that does not pass. -/
def World.calm (environment : Environment) (now : Moment) : World where
  toHost := .calm environment
  clock := fun _ => now
  stdin := []
  console := fun _ => none
  echo := fun _ => none
  clipboard := fun _ => .copied
  locale := .utf8
  installed := none
  location := []

/-- What a run changes. -/
structure Shell where
  tree : Files.Tree
  console : List Report.Item
  notices : List Notice
  stdout : Text
  clipboard : List Text
  /-- The standard input that has not been read. -/
  input : Text
  /-- How often the clock has been read. -/
  readings : Nat

/-- What goes wrong in the surroundings. -/
inductive Failure where
  /-- A file operation fails on a path. -/
  | files (cause : Files.Failure) (path : Text)
  /-- An encoding refuses a text. -/
  | encoding (why : Text)
  /-- The console cannot show an object. -/
  | console (why : Text)
  /-- A text cannot be put on the standard output. -/
  | output (why : Text)
  /-- The clipboard cannot be used. -/
  | clipboard (why : Text)
  /-- The standard input ends while an answer is asked for. -/
  | inputEnds
  deriving DecidableEq, Repr

/-- A failure in words. -/
def Failure.message : Failure → Text
  | files cause path => cause.message path
  | encoding why | console why | output why | clipboard why => why
  | inputEnds => []

/-- Why a run stops early. -/
inductive Stop where
  | misuse (m : Arguments.Misuse)
  | failure (f : Failure)
  deriving DecidableEq, Repr

/-- A step of a run. -/
abbrev Step (α : Type) := ExceptT Stop (StateM Shell) α

/-- The shell before a run. -/
def Shell.start (w : World) (tree : Files.Tree) : Shell :=
  ⟨tree, [], [], [], [], unifyLineEnds w.stdin, 0⟩

namespace Step

/-- Stop because something fails. -/
def fail {α : Type} (f : Failure) : Step α := throw (.failure f)

/-- Stop if there is a reason to. -/
def stopFor (failure : Text → Failure) : Option Text → Step Unit
  | none => pure ()
  | some why => fail (failure why)

/-- Put an object on the console. -/
def display (w : World) (item : Report.Item) : Step Unit := do
  stopFor .console (w.console item)
  modify fun s => { s with console := s.console ++ [item] }

/-- Tell the user something about the settings. -/
def tell (w : World) (notices : List Notice) : Step Unit := do
  modify fun s => { s with notices := s.notices ++ w.told notices }
  stopFor .encoding (w.untold? notices)

/-- Write on the standard output. -/
def print (w : World) (t : Text) : Step Unit := do
  stopFor .output (w.echo t)
  modify fun s => { s with stdout := s.stdout ++ t }

/-- Read the clock. -/
def readClock (w : World) : Step Moment := do
  let now := w.clock (← get).readings
  modify fun s => { s with readings := s.readings + 1 }
  pure now

/-- Replace the files by what an operation makes of them. -/
def change (path : Text) (f : Files.Tree → Except Files.Failure Files.Tree) : Step Unit := do
  match f (← get).tree with
  | .ok tree => modify fun s => { s with tree := tree }
  | .error e => fail (.files e path)

/-- Write a text at the end of a file that is open. -/
def writeOn (w : World) (e : Encoding) (path t : Text) : Step Unit := do
  stopFor .encoding (w.refusal? e t)
  change path (·.append path t)

/-- Give a file a new content in UTF-8.  The old content is gone before the new one
is encoded. -/
def writeFile (w : World) (path t : Text) : Step Unit := do
  change path (·.write path [])
  writeOn w .utf8 path t

/-- Add to the end of a file, in the encoding that files have if none is chosen. -/
def appendFile (w : World) (path t : Text) : Step Unit := do
  change path (·.append path [])
  writeOn w w.locale path t

/-- Read a file as text, with all line ends unified. -/
def readFile (path : Text) : Step Text := do
  match (← get).tree.read path with
  | .ok content => pure (unifyLineEnds content)
  | .error e => fail (.files e path)

/-- Make the directory of a file, and those around it. -/
def makeParent (path : Files.Path) : Step Unit := do
  match (← get).tree.makeDirectories path.absolute path.parent.parts.reverse with
  | .ok tree => modify fun s => { s with tree := tree }
  | .error (e, place) => fail (.files e place)

/-- Read all that is left of the standard input. -/
def readInput : Step Text := do
  let t := (← get).input
  modify fun s => { s with input := [] }
  pure t

/-- Copy a text; tells why there is no clipboard to be used. -/
def copy (w : World) (t : Text) : Step (Option Text) := do
  match w.clipboard t with
  | .copied =>
    modify fun s => { s with clipboard := s.clipboard ++ [t] }
    pure none
  | .refused why => pure (some why)
  | .broken why => fail (.clipboard why)

end Step

/-! ## Standard output -/

/-- A parameter character of a terminal control sequence. -/
def isParameter (c : Char) : Bool := 0x30 ≤ c.toNat && c.toNat ≤ 0x3F

/-- An intermediate character of a terminal control sequence. -/
def isIntermediate (c : Char) : Bool := 0x20 ≤ c.toNat && c.toNat ≤ 0x2F

/-- A character that ends a terminal control sequence. -/
def isFinal (c : Char) : Bool := 0x40 ≤ c.toNat && c.toNat ≤ 0x7E

/-- What follows a terminal control sequence, which is given after its escape
character: a bracket, parameters, intermediate characters, and a final one. -/
def afterSequence? : Text → Option Text
  | '[' :: s =>
    match (s.dropWhile isParameter).dropWhile isIntermediate with
    | c :: rest => if isFinal c then some rest else none
    | [] => none
  | _ => none

/-- Take control sequences out; the first argument bounds the number of steps. -/
def stripSequences : Nat → Text → Text
  | 0, s => s
  | _ + 1, [] => []
  | fuel + 1, c :: s =>
    if c = '\x1b' then
      match afterSequence? s with
      | some rest => stripSequences fuel rest
      | none => c :: stripSequences fuel s
    else c :: stripSequences fuel s

/-- A text without terminal control sequences. -/
def withoutSequences (t : Text) : Text := stripSequences t.length t

/-- A line on the standard output. -/
def echo (w : World) (t : Text) : Step Unit :=
  Step.print w (withoutSequences t ++ ['\n'])

end CommitLint.Command
