import CommitLint.Text.Integer
import CommitLint.Value.Basic

/-!
# Reading typed data from values

Decoding is lenient about form and strict about meaning: a truth value may
come as a number or a word, a whole number as a text or a fraction without a
fractional part.  All problems of a record are reported, each with the path to
its place, in the order of the record's fields.
-/

namespace CommitLint

/-- What is wrong at one place. -/
inductive Fault where
  /-- A required field is absent. -/
  | missing
  /-- Not a member of a closed vocabulary. -/
  | notMember
  /-- Not a text. -/
  | notText
  /-- Neither a whole number nor something that may stand for one. -/
  | notInteger
  /-- A text that is no whole number. -/
  | badInteger
  /-- A text or a fraction that is a whole number of too great a size. -/
  | tooLarge
  /-- A fraction with a fractional part. -/
  | fractional
  /-- A fraction that is infinite or no number. -/
  | notFinite
  /-- A number below the least one allowed. -/
  | tooSmall
  /-- Neither a truth value nor something that may stand for one. -/
  | notBool
  /-- A word or whole number that is no truth value. -/
  | badBool
  /-- Not a list. -/
  | notList
  /-- Not a table. -/
  | notTable
  /-- Not a table, where one with a kind is asked for. -/
  | notTagged
  /-- A table without a kind. -/
  | noKind
  /-- A kind that is not known. -/
  | unknownKind
  deriving DecidableEq, Repr

/-- A fault and the path to it. -/
structure Problem where
  path : List Text
  fault : Fault
  deriving DecidableEq, Repr

/-- The outcome of decoding: data, or at least one problem. -/
inductive Decoded (α : Type) where
  | ok (a : α)
  | bad (problems : List Problem)
  deriving DecidableEq, Repr

namespace Fault

/-- The code that a fault is reported under. -/
def code : Fault → Text
  | missing => "missing".toList
  | notMember => "enum".toList
  | notText => "string_type".toList
  | notInteger => "int_type".toList
  | badInteger => "int_parsing".toList
  | tooLarge => "int_parsing_size".toList
  | fractional => "int_from_float".toList
  | notFinite => "finite_number".toList
  | tooSmall => "greater_than_equal".toList
  | notBool => "bool_type".toList
  | badBool => "bool_parsing".toList
  | notList => "tuple_type".toList
  | notTable => "model_type".toList
  | notTagged => "model_attributes_type".toList
  | noKind => "union_tag_not_found".toList
  | unknownKind => "union_tag_invalid".toList

end Fault

namespace Problem

/-- The path, joined by periods, and the code. -/
def message (p : Problem) : Text :=
  ['.'].intercalate p.path ++ ": ".toList ++ p.fault.code

/-- All problems in one line. -/
def report (ps : List Problem) : Text := "; ".toList.intercalate (ps.map message)

end Problem

namespace Decoded

/-- A fault at the place itself. -/
def fail {α : Type} (f : Fault) : Decoded α := .bad [⟨[], f⟩]

/-- Apply a function to decoded data. -/
def map {α β : Type} (f : α → β) : Decoded α → Decoded β
  | ok a => ok (f a)
  | bad ps => bad ps

/-- Go on with decoded data. -/
def bind {α β : Type} (x : Decoded α) (f : α → Decoded β) : Decoded β :=
  match x with
  | ok a => f a
  | bad ps => bad ps

/-- Join two outcomes; problems of both are kept, in order. -/
def and {α β : Type} (f : Decoded (α → β)) (x : Decoded α) : Decoded β :=
  match f, x with
  | ok f, ok a => ok (f a)
  | ok _, bad qs => bad qs
  | bad ps, ok _ => bad ps
  | bad ps, bad qs => bad (ps ++ qs)

/-- Put a step in front of the paths of all problems. -/
def under {α : Type} (step : Text) : Decoded α → Decoded α
  | ok a => ok a
  | bad ps => bad (ps.map fun p => { p with path := step :: p.path })

end Decoded

namespace Value

open Text

/-- Words that stand for a truth value, in any case. -/
def boolOfWord? (t : Text) : Option Bool :=
  let w := t.map Char.toLower
  if w ∈ ["0", "off", "f", "false", "n", "no"].map String.toList then some false
  else if w ∈ ["1", "on", "t", "true", "y", "yes"].map String.toList then some true
  else none

/-- The fault of a text that is no whole number. -/
def faultOf : Misread → Fault
  | .malformed => .badInteger
  | .tooLong => .tooLarge

/-- The first whole number that is too great for a machine word. -/
def wordLimit : Int := 9223372036854775808

/-- A whole number of either sign below the limit of a machine word. -/
def isBelowWordLimit (n : Int) : Bool := -wordLimit < n && n < wordLimit

/-- Read a text. -/
def decodeText : Value → Decoded Text
  | text t => .ok t
  | _ => .fail .notText

/-- Read a whole number as a truth value. -/
def decodeBoolOfInt (n : Int) : Decoded Bool :=
  if n = 0 then .ok false else if n = 1 then .ok true else .fail .badBool

/-- Read a truth value.  A number that no machine word holds is not even a wrong
truth value, and neither is one with a fractional part. -/
def decodeBool : Value → Decoded Bool
  | bool b => .ok b
  | int n =>
    if isBelowWordLimit n || n == -wordLimit then decodeBoolOfInt n else .fail .notBool
  | fraction x =>
    match x.toInt? with
    | some n => if isBelowWordLimit n then decodeBoolOfInt n else .fail .notBool
    | none => .fail .notBool
  | text t =>
    match boolOfWord? t with
    | some b => .ok b
    | none => .fail .badBool
  | _ => .fail .notBool

/-- Read a fraction without a fractional part as a whole number. -/
def decodeIntOfFraction (x : Double) : Decoded Int :=
  if !x.isFinite then .fail .notFinite
  else
    match x.toInt? with
    | some n => if isBelowWordLimit n then .ok n else .fail .tooLarge
    | none => .fail .fractional

/-- Read a whole number. -/
def decodeInt : Value → Decoded Int
  | int n => .ok n
  | bool b => .ok (if b then 1 else 0)
  | fraction x => decodeIntOfFraction x
  | text t =>
    match readInteger t with
    | .ok n => .ok n
    | .error m => .fail (faultOf m)
  | _ => .fail .notInteger

/-- Read a whole number that is not negative. -/
def decodeNat (v : Value) : Decoded Nat :=
  v.decodeInt.bind fun n => if n < 0 then .fail .tooSmall else .ok n.toNat

/-- Read a member of a closed vocabulary by its exact word. -/
def decodeMember {α : Type} (ofName? : Text → Option α) : Value → Decoded α
  | text t =>
    match ofName? t with
    | some a => .ok a
    | none => .fail .notMember
  | _ => .fail .notMember

/-- Read something that may be nothing. -/
def decodeOption {α : Type} (decode : Value → Decoded α) : Value → Decoded (Option α)
  | null => .ok none
  | v => (decode v).map some

/-- Read items that are counted from an index on. -/
def decodeItems {α : Type} (decode : Value → Decoded α) :
    Nat → List Value → Decoded (List α)
  | _, [] => .ok []
  | n, v :: vs =>
    (((decode v).under (decimal n)).map List.cons).and (decodeItems decode (n + 1) vs)

/-- Read a list of items. -/
def decodeList {α : Type} (decode : Value → Decoded α) : Value → Decoded (List α)
  | list items => decodeItems decode 0 items
  | _ => .fail .notList

/-- Read the entries of a table. -/
def decodeTable : Value → Decoded (List (Text × Value))
  | table entries => .ok entries
  | _ => .fail .notTable

/-- Read a field that has to be there. -/
def field {α : Type} (name : String) (decode : Value → Decoded α)
    (entries : List (Text × Value)) : Decoded α :=
  match find? name.toList entries with
  | none => (Decoded.fail .missing).under name.toList
  | some v => (decode v).under name.toList

/-- Read a field that has a default. -/
def fieldOr {α : Type} (name : String) (default : α) (decode : Value → Decoded α)
    (entries : List (Text × Value)) : Decoded α :=
  match find? name.toList entries with
  | none => .ok default
  | some v => (decode v).under name.toList

end Value

end CommitLint
