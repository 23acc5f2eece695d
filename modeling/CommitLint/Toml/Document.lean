import CommitLint.Value.Basic

/-!
# Documents under construction

A TOML document is built statement by statement.  A table remembers where it
came from, because that decides what may still be added to it:

* an *implied* table exists only because a longer header passed through it; its
  own header may still come, and dotted keys may go through it;
* a *dotted* table was made or entered by dotted keys of one section; only keys
  of the same section may go through it;
* a *declared* table has had its header; neither a second header nor a dotted
  key from another section may open it.

An array of tables is entered at its last table.  Values, lists and inline
tables are closed for good.
-/

namespace CommitLint.Toml

/-- How a table has come to exist. -/
inductive Origin where
  | implied
  | dotted (sectionNo : Nat)
  | declared
  deriving DecidableEq, Repr

/-- What a key stands for while the document is read. -/
inductive Node where
  | value (v : Value)
  | table (origin : Origin) (entries : List (Text × Node))
  | tables (items : List (List (Text × Node)))

/-- Keys and what they stand for, in the order of their first appearance. -/
abbrev Entries := List (Text × Node)

namespace Node

/-- What a key stands for. -/
def find? (k : Text) (es : Entries) : Option Node := es.lookup k

/-- Set what a key stands for; a new key goes to the end. -/
def set (k : Text) (n : Node) (es : Entries) : Entries :=
  if (es.lookup k).isSome then es.map fun e => if e.1 = k then (k, n) else e
  else es ++ [(k, n)]

/-- Change the table that a header leads through; it is made if it is
missing. -/
def through (k : Text) (es : Entries) (change : Entries → Option Entries) :
    Option Entries :=
  match find? k es with
  | none => (change []).map fun inner => set k (.table .implied inner) es
  | some (.table origin inner) =>
    (change inner).map fun inner => set k (.table origin inner) es
  | some (.tables items) =>
    match items.getLast? with
    | none => none
    | some last => (change last).map fun last => set k (.tables (items.dropLast ++ [last])) es
  | some (.value _) => none

/-- Declare the table of a header. -/
def declare : List Text → Entries → Option Entries
  | [], _ => none
  | [k], es =>
    match find? k es with
    | none => some (set k (.table .declared []) es)
    | some (.table .implied inner) => some (set k (.table .declared inner) es)
    | some _ => none
  | k :: l :: ks, es => through k es (declare (l :: ks))

/-- Begin a new table in the array of tables of a header. -/
def extend : List Text → Entries → Option Entries
  | [], _ => none
  | [k], es =>
    match find? k es with
    | none => some (set k (.tables [[]]) es)
    | some (.tables items) => some (set k (.tables (items ++ [[]])) es)
    | some _ => none
  | k :: l :: ks, es => through k es (extend (l :: ks))

/-- Give a dotted key of a section its value, inside that section's table. -/
def assign (sectionNo : Nat) (v : Value) : List Text → Entries → Option Entries
  | [], _ => none
  | [k], es =>
    match find? k es with
    | none => some (set k (.value v) es)
    | some _ => none
  | k :: l :: ks, es =>
    let enter (inner : Entries) : Option Entries :=
      (assign sectionNo v (l :: ks) inner).map fun inner =>
        set k (.table (.dotted sectionNo) inner) es
    match find? k es with
    | none => enter []
    | some (.table .implied inner) => enter inner
    | some (.table (.dotted s) inner) => if s = sectionNo then enter inner else none
    | some _ => none

/-- Work in the table of a header that has been opened. -/
def within (change : Entries → Option Entries) : List Text → Entries → Option Entries
  | [], es => change es
  | k :: ks, es => through k es (within change ks)

/-! ## Finished documents -/

mutual

/-- The value of a node. -/
def toValue : Node → Value
  | value v => v
  | table _ es => .table (toEntries es)
  | tables items => .list (toItems items)

/-- The values of entries. -/
def toEntries : List (Text × Node) → List (Text × Value)
  | [] => []
  | (k, n) :: es => (k, toValue n) :: toEntries es

/-- The values of the tables of an array. -/
def toItems : List (List (Text × Node)) → List Value
  | [] => []
  | es :: items => .table (toEntries es) :: toItems items

end

end Node

end CommitLint.Toml
