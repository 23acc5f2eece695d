import CommitLint.Arguments.Similar
import CommitLint.CommitType
import CommitLint.Text.Quoted

/-!
# Options on a command line

An option has a long name after two hyphens, and some have a letter after one.
The value of a long option follows an equals sign or is the next word.  After
one hyphen several letters may stand together; the value of the first one that
takes a value is the rest of the word or else the next word.  A value may look
like an option.  Two hyphens alone end the options.  All other words are
operands, and they may stand between options.
-/

namespace CommitLint.Arguments

open Text

/-- The options. -/
inductive Switch where
  | message | fix | write | type | interactive | copy | strict | logFile | path
  | configList | configDir | version | help
  deriving DecidableEq, Repr

namespace Switch

/-- The long name, with its hyphens. -/
def long : Switch → Text
  | message => "--message".toList
  | fix => "--fix".toList
  | write => "--write".toList
  | type => "--type".toList
  | interactive => "--interactive".toList
  | copy => "--copy".toList
  | strict => "--strict".toList
  | logFile => "--log-file".toList
  | path => "--path".toList
  | configList => "--config-list".toList
  | configDir => "--config-dir".toList
  | version => "--version".toList
  | help => "--help".toList

/-- The letter, if there is one. -/
def letter? : Switch → Option Char
  | message => some 'm'
  | write => some 'w'
  | type => some 't'
  | interactive => some 'i'
  | logFile => some 'l'
  | path => some 'p'
  | _ => none

/-- Whether an option takes a value. -/
def takesValue : Switch → Bool
  | message => true
  | type => true
  | logFile => true
  | path => true
  | _ => false

/-- All options. -/
def all : List Switch :=
  [message, fix, write, type, interactive, copy, strict, logFile, path, configList,
    configDir, version, help]

/-- The option of a long name. -/
def ofLong? (t : Text) : Option Switch := all.find? fun s => s.long == t

/-- The option of a letter. -/
def ofLetter? (c : Char) : Option Switch := all.find? fun s => s.letter? == some c

/-- All names of an option, in quotes. -/
def hint (s : Switch) : Text :=
  match s.letter? with
  | some c => quoted ['-', c] ++ " / ".toList ++ quoted s.long
  | none => quoted s.long

end Switch

/-- The parameters whose values are paths. -/
inductive PathParameter where
  /-- The operand: the file with the message. -/
  | messageFile
  /-- The file to log to. -/
  | logFile
  /-- The directory of the configuration file. -/
  | directory
  deriving DecidableEq, Repr

/-- What is wrong with the place that a path leads to. -/
inductive PathFault where
  | missing
  | isFile
  | isDirectory
  deriving DecidableEq, Repr

/-- What is wrong with a command line. -/
inductive Misuse where
  /-- There is no such option, but perhaps some with similar names. -/
  | unknownOption (name : Text) (similar : List Text)
  /-- An option lacks its value. -/
  | valueMissing (name : Text)
  /-- An option has a value but takes none. -/
  | valueRefused (name : Text)
  /-- The value is not one of the commit types. -/
  | badType (value : Text)
  /-- The path cannot be looked at. -/
  | unusablePath (parameter : PathParameter) (value : Text)
  /-- The place of a path is not what it has to be. -/
  | badPath (parameter : PathParameter) (value : Text) (fault : PathFault)
  /-- There are operands that nothing is done with. -/
  | extraOperands (operands : List Text)
  /-- There is no message. -/
  | noMessage
  deriving DecidableEq, Repr

/-- The commit types in quotes. -/
def typeListing : Text := ", ".toList.intercalate (CommitType.all.map fun k => quoted k.name)

/-- That a value is not one of the commit types. -/
def notAType (value : Text) : Text :=
  quoted value ++ " is not one of ".toList ++ typeListing ++ ['.']

/-- A suggestion of similar names. -/
def suggestion : List Text → Text
  | [] => []
  | [name] => " Did you mean ".toList ++ quoted name ++ ['?']
  | names =>
    " (Did you mean one of: ".toList ++ ", ".toList.intercalate (names.map quoted) ++ "?)".toList

/-- The names of a parameter in messages. -/
def PathParameter.hint : PathParameter → Text
  | messageFile => quoted "[MESSAGE_FILE]".toList
  | logFile => Switch.logFile.hint
  | directory => Switch.path.hint

/-- What has to be at the place of a parameter's path. -/
def PathParameter.kind : PathParameter → Text
  | messageFile => "File".toList
  | logFile => "File".toList
  | directory => "Directory".toList

/-- A fault in words. -/
def PathFault.message : PathFault → Text
  | missing => "does not exist".toList
  | isFile => "is a file".toList
  | isDirectory => "is a directory".toList

namespace Misuse

/-- A misuse in words; there are none for a path that cannot be looked at. -/
def message : Misuse → Text
  | unknownOption name similar =>
    "No such option ".toList ++ quoted name ++ ['.'] ++ suggestion similar
  | valueMissing name => "Option ".toList ++ quoted name ++ " requires an argument.".toList
  | valueRefused name => "Option ".toList ++ quoted name ++ " does not take a value.".toList
  | badType value =>
    "Invalid value for ".toList ++ Switch.type.hint ++ ": ".toList ++ notAType value
  | unusablePath _ _ => []
  | badPath parameter value fault =>
    "Invalid value for ".toList ++ parameter.hint ++ ": ".toList ++ parameter.kind ++
      ' ' :: quoted value ++ ' ' :: fault.message ++ ['.']
  | extraOperands operands =>
    (if operands.length = 1 then "Got unexpected extra argument ("
      else "Got unexpected extra arguments (").toList ++
      [' '].intercalate operands ++ [')']
  | noMessage => "Provide a MESSAGE_FILE, '-' for stdin, or --message".toList

/-- The exit status after a misuse. -/
def status : Misuse → Nat
  | unusablePath _ _ => 1
  | _ => 2

end Misuse

/-- An option that was given, with its value. -/
structure Use where
  switch : Switch
  value : Option Text
  deriving DecidableEq, Repr

/-- The options and operands of a command line, in order. -/
structure Words where
  uses : List Use
  operands : List Text
  deriving DecidableEq, Repr

namespace Words

/-- Put an option in front. -/
def addUse (u : Use) (w : Words) : Words := { w with uses := u :: w.uses }

/-- Put an operand in front. -/
def addOperand (t : Text) (w : Words) : Words := { w with operands := t :: w.operands }

end Words

/-- What letters after one hyphen give: options, and one that still needs the
next word as its value. -/
structure Letters where
  uses : List Use
  pending : Option Switch
  deriving DecidableEq, Repr

/-- Read letters after one hyphen. -/
def letters : Text → Except Misuse Letters
  | [] => .ok ⟨[], none⟩
  | c :: cs =>
    match Switch.ofLetter? c with
    | none => .error (.unknownOption ['-', c] [])
    | some s =>
      if s.takesValue then
        if cs.isEmpty then .ok ⟨[], some s⟩ else .ok ⟨[⟨s, some cs⟩], none⟩
      else
        match letters cs with
        | .error e => .error e
        | .ok l => .ok { l with uses := ⟨s, none⟩ :: l.uses }

/-- A word that begins with a hyphen and is longer than that. -/
def looksLikeOption : Text → Bool
  | '-' :: _ :: _ => true
  | _ => false

/-- Read the words of a command line. -/
def scan : List Text → Except Misuse Words
  | [] => .ok ⟨[], []⟩
  | w :: ws =>
    if w = "--".toList then .ok ⟨[], ws⟩
    else if looksLikeOption w then
      let name := w.takeWhile (· != '=')
      let given : Option Text :=
        if w.contains '=' then some ((w.dropWhile (· != '=')).drop 1) else none
      match Switch.ofLong? name with
      | some s =>
        match s.takesValue, given with
        | true, some v => (scan ws).map (·.addUse ⟨s, some v⟩)
        | true, none =>
          match ws with
          | [] => .error (.valueMissing name)
          | v :: ws => (scan ws).map (·.addUse ⟨s, some v⟩)
        | false, some _ => .error (.valueRefused name)
        | false, none => (scan ws).map (·.addUse ⟨s, none⟩)
      | none =>
        if w.take 2 = "--".toList then
          .error (.unknownOption name (similar (Switch.all.map Switch.long) name))
        else
          match letters (w.drop 1) with
          | .error e => .error e
          | .ok ⟨uses, none⟩ =>
            (scan ws).map fun r => { r with uses := uses ++ r.uses }
          | .ok ⟨uses, some s⟩ =>
            match ws with
            | [] => .error (.valueMissing (w.take 1 ++ s.letter?.toList))
            | v :: ws => (scan ws).map fun r => { r with uses := uses ++ ⟨s, some v⟩ :: r.uses }
    else (scan ws).map (·.addOperand w)

end CommitLint.Arguments
