import CommitLint.Config.Basic
import CommitLint.Files.Tree
import CommitLint.Toml.Reader
import CommitLint.Toml.Writer
import CommitLint.Value.Display

/-!
# The configuration file

Settings are kept in a file of the directory that the program works in.  They
stand in the table of this program, or at the top if there is no such table.

Loading uses either all settings of the file or none of them: a file that
cannot be read, has no table where one is needed, or holds a setting of a wrong
kind is left aside with a notice, and the environment alone decides.  Two
settings are given up on their own: a default type with an unknown name, and a
log file that would not stay below the working directory.  If the notice of this
cannot be told, the file is left aside as well.

What loading gives comes with the notices that go with it.  Nobody is prepared
for a notice that cannot be told once the file has been used or left aside;
whoever loads has to reckon with that.
-/

namespace CommitLint.Config

open Text

/-- The name of the configuration file. -/
def fileName : Text := ".gitsmartlint.toml".toList

/-- The table of this program. -/
def sectionName : Text := "gitsmartlint".toList

/-- The path of the configuration file of a directory. -/
def filePath (directory : Files.Path) : Files.Path := directory.child fileName

/-! ## Loading -/

/-- The value that holds the settings of a document. -/
def sectionOf (document : List (Text × Value)) : Value :=
  (Value.find? sectionName document).getD (.table document)

/-- Clean the text of a setting. -/
def sanitizeEntry (name : Text) (settings : List (Text × Value)) : List (Text × Value) :=
  match Value.find? name settings with
  | some (.text t) => Value.replace name (.text (sanitize t)) settings
  | _ => settings

/-- What checking a log file finds. -/
inductive LogFileCheck where
  | fine
  | unsafeFile
  /-- The value cannot be checked like a path. -/
  | uncheckable
  deriving DecidableEq, Repr

/-- Check the value of a log file.  A list or a table that holds two periods,
as an item or as a name, is turned down like a text that does. -/
def checkLogFile : Value → LogFileCheck
  | .text t => if Files.Path.isSafe t then .fine else .unsafeFile
  | .list items =>
    if items.any fun v => match v with | .text t => t == Files.Path.up | _ => false then
      .unsafeFile
    else .uncheckable
  | .table entries =>
    if (entries.lookup Files.Path.up).isSome then .unsafeFile else .uncheckable
  | _ => .uncheckable

/-- Give up a log file that is unsafe; nothing if it cannot be checked, or not
be shown to the user. -/
def guardLogFile (settings : List (Text × Value)) :
    Option (List (Text × Value) × List Notice) :=
  let name := "log_file".toList
  match Value.find? name settings with
  | none => some (settings, [])
  | some v =>
    if !v.isTruthy then some (settings, [])
    else
      match checkLogFile v with
      | .fine => some (settings, [])
      | .unsafeFile =>
        v.display?.map fun shown =>
          (Value.replace name .null settings, [.unsafeLogFile shown])
      | .uncheckable => none

/-- The entries of the value that holds the settings, cleaned and checked. -/
def settingsOf : Value → Option (List (Text × Value) × List Notice)
  | .table entries =>
    (guardLogFile (sanitizeEntry "log_file".toList
        (sanitizeEntry "default_type".toList entries))).map
      fun (settings, notices) =>
        (settings.filter fun e => fieldNames.contains e.1, notices)
  | _ => none

/-- The configuration that an environment gives on its own.  Its settings are of
the right kinds, so that they can always be read. -/
def ofDefaults (env : Environment) : Config × List Notice :=
  match build env [] with
  | (.ok c, notices) => (c, notices)
  | (.bad _, notices) => (⟨false, false, none, false, none⟩, notices)

/-- The configuration when the file is left aside, after some notices. -/
def leaveAside (env : Environment) (notices : List Notice) (why : Text) :
    Config × List Notice :=
  let (c, more) := ofDefaults env
  (c, notices ++ .unreadable why :: more)

/-- The configuration of a document.  The notices about its settings are told while
the file is used; one that cannot be told makes it useless. -/
def ofDocument (h : Host) (document : Text) : Config × List Notice :=
  match (Toml.read? document).bind fun es => settingsOf (sectionOf es) with
  | none => leaveAside h.environment [] (h.complaint document)
  | some (settings, found) =>
    let (outcome, more) := build h.environment settings
    let notices := found ++ more
    match h.untold? notices, outcome with
    | some why, _ => leaveAside h.environment (h.told notices) why
    | none, .ok c => (c, notices)
    | none, .bad _ => leaveAside h.environment notices (h.complaint document)

/-- Load the configuration of a directory. -/
def load (h : Host) (tree : Files.Tree) (directory : Files.Path) : Config × List Notice :=
  let file := filePath directory
  match tree.look file.toText with
  | none => ofDefaults h.environment
  | some .directory =>
    leaveAside h.environment [] (Files.Failure.isDirectory.message (h.shown file))
  | some (.file content) => ofDocument h content

/-! ## Saving -/

/-- Drop a log file that is unsafe. -/
def savableLogFile (c : Config) : Option Text × List Notice :=
  match c.logFile with
  | none => (none, [])
  | some t =>
    if t.isEmpty || Files.Path.isSafe t then (some t, [])
    else (none, [.unsavedLogFile t])

/-- The entries that are saved: all that are not nothing, in order. -/
def savedEntries (c : Config) : List (Text × Toml.Scalar) :=
  [("strict".toList, .bool c.strict), ("auto_fix".toList, .bool c.autoFix)] ++
    (c.defaultType.map fun k => ("default_type".toList, Toml.Scalar.text k.name)).toList ++
    [("always_log".toList, .bool c.alwaysLog)] ++
    (c.savableLogFile.1.map fun t => ("log_file".toList, Toml.Scalar.text t)).toList

/-- The lines that are saved. -/
def savedLines (c : Config) : List Text :=
  Toml.writeHeader sectionName :: c.savedEntries.map Toml.writeEntry

/-- The document that is saved. -/
def toDocument (c : Config) : Text := Toml.writeTable sectionName c.savedEntries

/-- Save a configuration in a directory, whose path is shown in a notice as it
is seen from outside. -/
def save (c : Config) (tree : Files.Tree) (directory : Files.Path) (shown : Text) :
    Files.Tree × List Notice :=
  let notices := c.savableLogFile.2
  match tree.write (filePath directory).toText c.toDocument with
  | .ok tree => (tree, notices)
  | .error f => (tree, notices ++ [.unwritable (f.message shown)])

end CommitLint.Config
