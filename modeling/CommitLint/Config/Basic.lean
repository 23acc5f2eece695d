import CommitLint.Clock
import CommitLint.CommitType
import CommitLint.Files.Path
import CommitLint.Text.Encoding
import CommitLint.Value.Decode

/-!
# Configuration

Five settings say how the program behaves; what the rules demand is fixed.
Settings come from the environment and from given entries, and a given entry
wins over the environment even if it is nothing.  A name for the default type
may be written in any case; a name that is no type is given up with a notice.

Notices go to the standard output one by one, in its encoding.  A notice that this
encoding refuses is not told, and neither are those after it.

The log file is either one with the present moment in its name, or the
configured one, provided that it stays below the working directory.
-/

namespace CommitLint

/-- The settings. -/
structure Config where
  /-- Warnings fail a message too. -/
  strict : Bool
  /-- Fixes are applied without being asked for. -/
  autoFix : Bool
  /-- The type to put in where one has to be chosen and none was. -/
  defaultType : Option CommitType
  /-- There is always a log file. -/
  alwaysLog : Bool
  /-- The log file to use otherwise. -/
  logFile : Option Text
  deriving DecidableEq, Repr

/-- Values of environment variables by name. -/
abbrev Environment := List (Text × Text)

/-- Something the user is told while settings are read or written. -/
inductive Notice where
  /-- The configuration file is left aside, and why. -/
  | unreadable (why : Text)
  /-- The configuration file cannot be written. -/
  | unwritable (reason : Text)
  /-- A name for the default type is no type. -/
  | unknownType (name : Text)
  /-- A log file would not stay below the working directory: it is not used. -/
  | unsafeLogFile (shown : Text)
  /-- A log file would not stay below the working directory: it is not saved. -/
  | unsavedLogFile (shown : Text)
  deriving DecidableEq, Repr

/-- A notice in words. -/
def Notice.message : Notice → Text
  | unreadable why => "Warning: Error reading config file: ".toList ++ why
  | unwritable reason => "Error saving config file: ".toList ++ reason
  | unknownType name =>
    "Warning: Unknown commit type '".toList ++ name ++ "', ignoring default_type".toList
  | unsafeLogFile shown =>
    "Warning: Unsafe log file path '".toList ++ shown ++ "', using default".toList
  | unsavedLogFile shown =>
    "Warning: Unsafe log file path '".toList ++ shown ++ "', not saving".toList

/-- Whether a notice says that the configuration file is left aside. -/
def Notice.isUnreadable : Notice → Bool
  | unreadable _ => true
  | _ => false

/-- The surroundings in which settings are read and told of. -/
structure Host where
  environment : Environment
  /-- The absolute path of the working directory. -/
  directory : Text
  /-- The code point that a character stands for: its own one, unless the character
  stands for a lone surrogate. -/
  codePoint : Char → Nat
  /-- The encoding of the standard output. -/
  output : Encoding
  /-- What the libraries say of a document that cannot be used. -/
  complaint : Text → Text

namespace Host

/-- Surroundings that take every text. -/
def calm (environment : Environment) : Host := ⟨environment, [], Char.toNat, .utf8, fun _ => []⟩

/-- Why a text cannot be written in an encoding. -/
def refusal? (h : Host) (e : Encoding) (t : Text) : Option Text :=
  e.refusal? (t.map h.codePoint)

/-- Why a notice cannot be told. -/
def objection? (h : Host) (n : Notice) : Option Text := h.refusal? h.output n.message

/-- The notices that are told: those before the first one that cannot be. -/
def told (h : Host) (notices : List Notice) : List Notice :=
  notices.takeWhile fun n => (h.objection? n).isNone

/-- Why not all notices are told. -/
def untold? (h : Host) (notices : List Notice) : Option Text := notices.findSome? h.objection?

/-- The absolute path of a path, for showing. -/
def shown (h : Host) (p : Files.Path) : Text :=
  if p.absolute then p.toText else ['/'].intercalate (h.directory :: p.parts)

end Host

namespace Config

open Text

/-! ## Cleaning texts -/

/-- Controls that are taken out of texts: all but tab, line feed and carriage
return. -/
def isUnwanted (c : Char) : Bool :=
  let n := c.toNat
  n ≤ 8 || n == 0x0B || n == 0x0C || (0x0E ≤ n && n ≤ 0x1F) || n == 0x7F

/-- The most characters that a text may have. -/
def maxLength : Nat := 1000

/-- Take out controls, cut what is too long, and trim. -/
def sanitize (t : Text) : Text :=
  trim ((t.filter fun c => !isUnwanted c).take maxLength)

/-! ## Sources -/

/-- The names of the settings, in order. -/
def fieldNames : List Text :=
  ["strict", "auto_fix", "default_type", "always_log", "log_file"].map String.toList

/-- A setting that is a truth value, as the environment gives it: true for four
words, in any case but with nothing around them. -/
def boolSetting (t : Text) : Value :=
  .bool ((["true", "1", "yes", "on"].map String.toList).contains (lower t))

/-- A setting that is a text, as the environment gives it: cleaned, and nothing
if that leaves it empty. -/
def textSetting (t : Text) : Value :=
  let cleaned := sanitize t
  if cleaned.isEmpty then .null else .text cleaned

/-- The variables that hold settings, with the names of the settings and how
they are read. -/
def settingVariables : List (Text × Text × (Text → Value)) :=
  [("GIT_SMART_LINT_STRICT".toList, "strict".toList, boolSetting),
    ("GIT_SMART_LINT_AUTO_FIX".toList, "auto_fix".toList, boolSetting),
    ("GIT_SMART_LINT_DEFAULT_TYPE".toList, "default_type".toList, textSetting),
    ("GIT_SMART_LINT_ALWAYS_LOG".toList, "always_log".toList, boolSetting),
    ("GIT_SMART_LINT_LOG_FILE".toList, "log_file".toList, textSetting)]

/-- The settings that an environment gives. -/
def ofEnvironment (env : Environment) : List (Text × Value) :=
  settingVariables.filterMap fun (name, setting, read) =>
    (env.lookup name).map fun t => (setting, read t)

/-- Entries, with those of another source behind them. -/
def override (given fallback : List (Text × Value)) : List (Text × Value) :=
  given ++ fallback.filter fun e => (given.lookup e.1).isNone

/-- What becomes of a default type: a name is written in lower case, or given up
if it is the name of no type. -/
def normalizedType : Value → Value
  | .text t => if (CommitType.ofName? (lower t)).isSome then .text (lower t) else .null
  | v => v

/-- What there is to tell about the name of a default type. -/
def typeNotices (t : Text) : List Notice :=
  if (CommitType.ofName? (lower t)).isSome then [] else [.unknownType (lower t)]

/-- Normalize the default type among settings. -/
def normalizeType (settings : List (Text × Value)) :
    List (Text × Value) × List Notice :=
  let name := "default_type".toList
  match Value.find? name settings with
  | some (.text t) =>
    (Value.replace name (normalizedType (.text t)) settings, typeNotices t)
  | _ => (settings, [])

/-- Read the settings. -/
def decode (settings : List (Text × Value)) : Decoded Config :=
  (((((Value.fieldOr "strict" false Value.decodeBool settings).map Config.mk).and
    (Value.fieldOr "auto_fix" false Value.decodeBool settings)).and
    (Value.fieldOr "default_type" none
      (Value.decodeOption (Value.decodeMember CommitType.ofName?)) settings)).and
    (Value.fieldOr "always_log" false Value.decodeBool settings)).and
    (Value.fieldOr "log_file" none (Value.decodeOption Value.decodeText) settings)

/-- The configuration of given entries in an environment. -/
def build (env : Environment) (given : List (Text × Value)) :
    Decoded Config × List Notice :=
  let (settings, notices) := normalizeType (override given (ofEnvironment env))
  (decode settings, notices)

/-! ## The log file -/

/-- The file to log to at a moment, if there is one. -/
def logPath (c : Config) (now : Moment) : Option Files.Path × List Notice :=
  if c.alwaysLog then
    (some (Files.Path.ofText ("gsl_log-".toList ++ now.fileStamp ++ ".log".toList)), [])
  else
    match c.logFile with
    | none => (none, [])
    | some t =>
      if t.isEmpty then (none, [])
      else if Files.Path.isSafe t then (some (Files.Path.ofText t), [])
      else (none, [.unsafeLogFile t])

end Config

end CommitLint
