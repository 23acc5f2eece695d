import CommitLint.Text.Lines
import CommitLint.Toml.Unquoted
import CommitLint.Toml.Document

/-!
# Reading TOML

A document is a sequence of statements, at most one on a line: a key with its
value, the header of a table, or the header of a further table in an array.
Blank lines and comments may stand anywhere between them.  Reading gives the
top-level entries, or nothing if the document breaks any rule.

Every loop is bounded by the length of the text that is left, since each of
its rounds takes at least one character off it.  Values inside values are
bounded by how deep they may lie.
-/

namespace CommitLint.Toml

open Text

/-! ## Inline tables

An inline table may go over several lines, with comments on them, and a comma
may follow its last pair.  Its keys are all in it: none of its tables can be
entered again, except those that dotted keys of the same inline table have
made. -/

/-- Give a dotted key its value inside an inline table. -/
def assignInline (v : Value) : List Text → List (Text × Value) →
    Option (List (Text × Value))
  | [], _ => none
  | [k], es => if (es.lookup k).isSome then none else some (es ++ [(k, v)])
  | k :: l :: ks, es =>
    match es.lookup k with
    | none => (assignInline v (l :: ks) []).map fun inner => es ++ [(k, .table inner)]
    | some (.table inner) =>
      (assignInline v (l :: ks) inner).map fun inner => Value.replace k (.table inner) es
    | some _ => none

/-- A key is a beginning of another one, or the same. -/
def isClosedBy (closed : List (List Text)) (k : List Text) : Bool :=
  closed.any fun c => c.isPrefixOf k

/-- Whether a value is closed for the keys after it. -/
def isContainer : Value → Bool
  | .list _ => true
  | .table _ => true
  | _ => false

/-! ## Values -/

/-- The items of a list, up to its closing bracket.  Each is read by `item`. -/
def items (item : Text → Scanned Value) : Nat → Text → Scanned (List Value)
  | 0, _ => none
  | fuel + 1, s =>
    match s with
    | ']' :: rest => some ([], rest)
    | s =>
      (item s).bind fun (v, rest) =>
        (skipLayout (rest.length + 1) rest).bind fun rest =>
          match rest with
          | ']' :: rest => some ([v], rest)
          | ',' :: rest =>
            (skipLayout (rest.length + 1) rest).bind fun rest =>
              (items item fuel rest).map fun (vs, rest) => (v :: vs, rest)
          | _ => none

/-- A key and its value, which `item` reads. -/
def pair (item : Text → Scanned Value) (s : Text) : Scanned (List Text × Value) :=
  (key s).bind fun (k, rest) =>
    (symbol '=' rest).bind fun rest =>
      (item (skipSpaces rest)).map fun (v, rest) => ((k, v), rest)

/-- The pairs of an inline table, up to its closing brace, after those that
have been read; `closed` lists the keys of values that cannot be entered. -/
def pairs (item : Text → Scanned Value) : Nat → List (List Text) → List (Text × Value) →
    Text → Scanned (List (Text × Value))
  | 0, _, _, _ => none
  | fuel + 1, closed, es, s =>
    match s with
    | '\x7d' :: rest => some (es, rest)
    | s =>
      (pair item s).bind fun ((k, v), rest) =>
        if isClosedBy closed k then none
        else
          (assignInline v k es).bind fun es =>
            (skipLayout (rest.length + 1) rest).bind fun rest =>
              match rest with
              | '\x7d' :: rest => some (es, rest)
              | ',' :: rest =>
                (skipLayout (rest.length + 1) rest).bind
                  (pairs item fuel (if isContainer v then k :: closed else closed) es)
              | _ => none

/-- A value.  Any value inside it lies in fewer lists and inline tables than the
first argument says. -/
def valueWithin : Nat → Text → Scanned Value
  | 0, _ => none
  | levels + 1, s =>
    match s with
    | '[' :: rest =>
      (skipLayout (rest.length + 1) rest).bind fun s =>
        (items (valueWithin levels) (s.length + 1) s).map fun (vs, rest) => (.list vs, rest)
    | '\x7b' :: rest =>
      (skipLayout (rest.length + 1) rest).bind fun s =>
        (pairs (valueWithin levels) (s.length + 1) [] [] s).map fun (es, rest) =>
          (.table es, rest)
    | s =>
      match string s with
      | some (t, rest) => some (.text t, rest)
      | none =>
        match boolean s with
        | some (b, rest) => some (.bool b, rest)
        | none => scalar s

/-- How deep lists and inline tables may lie inside each other. -/
def maxNesting : Nat := 400

/-- A value. -/
def value (s : Text) : Scanned Value := valueWithin (maxNesting + 1) s

/-! ## Statements -/

/-- What has been read of a document: its entries, and the header and number
of the section that is open. -/
structure Progress where
  entries : Entries
  header : List Text
  sections : Nat

/-- A key with its value. -/
def assignment (p : Progress) (s : Text) : Scanned Progress :=
  (pair value s).bind fun ((k, v), rest) =>
    (Node.within (Node.assign p.sections v k) p.header p.entries).map fun es =>
      ({ p with entries := es }, rest)

/-- The header of a table, after its bracket. -/
def tableHeader (p : Progress) (s : Text) : Scanned Progress :=
  (key (skipSpaces s)).bind fun (k, rest) =>
    (symbol ']' rest).bind fun rest =>
      (Node.declare k p.entries).map fun es => (⟨es, k, p.sections + 1⟩, rest)

/-- The header of a further table of an array, after its brackets. -/
def arrayHeader (p : Progress) (s : Text) : Scanned Progress :=
  (key (skipSpaces s)).bind fun (k, rest) =>
    ((symbol ']' rest).bind (symbol ']')).bind fun rest =>
      (Node.extend k p.entries).map fun es => (⟨es, k, p.sections + 1⟩, rest)

/-- One statement, or none if the line is empty or a comment. -/
def statement (p : Progress) (s : Text) : Scanned Progress :=
  match s with
  | '[' :: '[' :: rest => arrayHeader p rest
  | '[' :: rest => tableHeader p rest
  | [] => some (p, [])
  | c :: _ =>
    if c = '\n' || c = '#' then some (p, s)
    else if isBare c || c = '\x22' || c = '\x27' then assignment p s
    else none

/-- What ends a line: a comment perhaps, and a line feed or the end. -/
def endLine (s : Text) : Option Text :=
  (skipComment (skipSpaces s)).bind fun rest =>
    match rest with
    | [] => some []
    | '\n' :: rest => some rest
    | _ => none

/-- All statements. -/
def statements : Nat → Progress → Text → Option Progress
  | 0, _, _ => none
  | fuel + 1, p, s =>
    match skipSpaces s with
    | [] => some p
    | s =>
      (statement p s).bind fun (p, rest) =>
        (endLine rest).bind fun rest => statements fuel p rest

/-- Read a document. -/
def read? (document : Text) : Option (List (Text × Value)) :=
  let s := foldCarriageReturns document
  (statements (s.length + 1) ⟨[], [], 0⟩ s).map fun p => Node.toEntries p.entries

end CommitLint.Toml
