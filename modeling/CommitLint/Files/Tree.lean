import CommitLint.Files.Path
import CommitLint.Text.Quoted

/-!
# The directory a program works in

The files that a program can tell of: regular files with their contents, and
directories, which exist where a file lies below them or where they have been
made.  The working directory, the directories above it and the root directory
exist; what else these hold is not known, so they count as empty.

A path is followed step by step, as a system does it: every step but the last
has to lead to a directory, a step that holds only a period or nothing stays
where it is, and two periods lead up.
-/

namespace CommitLint.Files

/-- Where names lead down from. -/
inductive Base where
  /-- The directory so many steps above the working directory. -/
  | above (steps : Nat)
  /-- The root directory. -/
  | root
  deriving DecidableEq, Repr

/-- A place, as names of steps down from a base. -/
structure Place where
  base : Base
  names : List Text
  deriving DecidableEq, Repr

namespace Place

/-- The working directory. -/
def here : Place := ⟨.above 0, []⟩

/-- The directory around a place; the root directory is around itself. -/
def parent (p : Place) : Place :=
  if p.names.isEmpty then
    match p.base with
    | .above n => ⟨.above (n + 1), []⟩
    | .root => p
  else ⟨p.base, p.names.dropLast⟩

/-- A name below a place. -/
def child (p : Place) (name : Text) : Place := ⟨p.base, p.names ++ [name]⟩

/-- The place that a step leads to. -/
def step (p : Place) (name : Text) : Place :=
  if name.isEmpty || name = ['.'] then p
  else if name = Path.up then p.parent
  else p.child name

/-- The place where following a path begins. -/
def start (path : Text) : Place := if path.head? = some '/' then ⟨.root, []⟩ else here

/-- The path of a place. -/
def toPath (p : Place) : Path :=
  match p.base with
  | .above n => ⟨false, List.replicate n Path.up ++ p.names⟩
  | .root => ⟨true, p.names⟩

end Place

/-- Files with their contents, and directories that have been made. -/
structure Tree where
  files : List (Place × Text)
  directories : List Place
  deriving DecidableEq, Repr

/-- What is at a place. -/
inductive Entry where
  | file (content : Text)
  | directory
  deriving DecidableEq, Repr

/-- Why a file operation fails. -/
inductive Failure where
  | notFound
  | alreadyThere
  | notDirectory
  | isDirectory
  | nameTooLong
  /-- The path holds a NUL, so that the system is not asked. -/
  | unusable
  deriving DecidableEq, Repr

/-- The system's number and words for a failure, with the path it is about.
There is no number for what the system is not asked. -/
def Failure.message (f : Failure) (path : Text) : Text :=
  let told (words : String) : Text := words.toList ++ ": ".toList ++ Text.quoted path
  match f with
  | notFound => told "[Errno 2] No such file or directory"
  | alreadyThere => told "[Errno 17] File exists"
  | notDirectory => told "[Errno 20] Not a directory"
  | isDirectory => told "[Errno 21] Is a directory"
  | nameTooLong => told "[Errno 36] File name too long"
  | unusable => "embedded null byte".toList

namespace Tree

/-- Whether a place is a directory on the way to another one. -/
def isOnWay (dir p : Place) : Bool :=
  dir.base == p.base && dir.names.isPrefixOf p.names && dir.names != p.names

/-- What is at a place. -/
def get? (t : Tree) (p : Place) : Option Entry :=
  match t.files.lookup p with
  | some content => some (.file content)
  | none =>
    if p.names.isEmpty || t.directories.contains p ||
        t.files.any (fun f => isOnWay p f.1) || t.directories.any (isOnWay p) then
      some .directory
    else none

/-- The size of a text in UTF-8. -/
def byteSize (t : Text) : Nat := t.foldl (fun n c => n + c.utf8Size) 0

/-- The most bytes that a path may have. -/
def maxPathSize : Nat := 4095

/-- Follow steps down from a place.  The last step may lead to nothing. -/
def follow (t : Tree) (p : Place) : List Text → Except Failure (Place × Option Entry)
  | [] => .ok (p, t.get? p)
  | step :: steps =>
    match t.get? p with
    | none => .error .notFound
    | some (.file _) => .error .notDirectory
    | some .directory =>
      if byteSize step > 255 then .error .nameTooLong else follow t (p.step step) steps

/-- Look at what a path leads to. -/
def find (t : Tree) (path : Text) : Except Failure (Place × Option Entry) :=
  if path.isEmpty then .error .notFound
  else if !Path.isUsable path then .error .unusable
  else if byteSize path > maxPathSize then .error .nameTooLong
  else t.follow (.start path) (Text.pieces '/' path)

/-- What a path leads to; nothing if it cannot be followed. -/
def look (t : Tree) (path : Text) : Option Entry :=
  match t.find path with
  | .ok (_, entry) => entry
  | .error _ => none

/-- Read a file. -/
def read (t : Tree) (path : Text) : Except Failure Text :=
  match t.find path with
  | .error f => .error f
  | .ok (_, none) => .error .notFound
  | .ok (_, some .directory) => .error .isDirectory
  | .ok (_, some (.file content)) => .ok content

/-- Set the content of a file at a place. -/
def put (t : Tree) (p : Place) (content : Text) : Tree :=
  if (t.files.lookup p).isSome then
    { t with files := t.files.map fun f => if f.1 = p then (p, content) else f }
  else { t with files := t.files ++ [(p, content)] }

/-- Change a file's content; a file that is not there is made, as empty. -/
def modify (t : Tree) (path : Text) (f : Text → Text) : Except Failure Tree :=
  match t.find path with
  | .error e => .error e
  | .ok (_, some .directory) => .error .isDirectory
  | .ok (p, none) => .ok (t.put p (f []))
  | .ok (p, some (.file content)) => .ok (t.put p (f content))

/-- Give a file a new content. -/
def write (t : Tree) (path content : Text) : Except Failure Tree :=
  t.modify path fun _ => content

/-- Add to the end of a file. -/
def append (t : Tree) (path content : Text) : Except Failure Tree :=
  t.modify path (· ++ content)

/-- Make one directory. -/
def makeDirectory (t : Tree) (path : Text) : Except Failure Tree :=
  match t.find path with
  | .error e => .error e
  | .ok (_, some _) => .error .alreadyThere
  | .ok (p, none) => .ok { t with directories := t.directories ++ [p] }

/-- Make a directory, given by the parts of its path in reverse, and those above
it that are missing.  It may exist already.  The failure comes with its path. -/
def makeDirectories (t : Tree) (absolute : Bool) : List Text → Except (Failure × Text) Tree
  | [] => .ok t
  | last :: before =>
    let path := (Path.mk absolute (last :: before).reverse).toText
    let make (t : Tree) : Except (Failure × Text) Tree :=
      match t.makeDirectory path with
      | .ok t' => .ok t'
      | .error f => if t.look path = some .directory then .ok t else .error (f, path)
    match t.makeDirectory path with
    | .error .notFound =>
      match makeDirectories t absolute before with
      | .error e => .error e
      | .ok t' => make t'
    | _ => make t

/-- A tree of files, given by their paths from the working directory. -/
def ofFiles (files : List (Text × Text)) : Tree :=
  ⟨files.map fun f => (⟨.above 0, (Path.ofText f.1).parts⟩, f.2), []⟩

/-- The files below the working directory, with their paths. -/
def toFiles (t : Tree) : List (Text × Text) :=
  t.files.filterMap fun f =>
    if f.1.base = .above 0 then some (f.1.toPath.toText, f.2) else none

/-- The files that are new or have another content than before. -/
def changedFiles (before after : Tree) : List (Text × Text) :=
  after.files.filterMap fun f =>
    if before.files.lookup f.1 = some f.2 then none else some (f.1.toPath.toText, f.2)

/-- The directories that are new. -/
def newDirectories (before after : Tree) : List Text :=
  (after.directories.filter fun p => !before.directories.contains p).map fun p =>
    p.toPath.toText

end Tree

end CommitLint.Files
