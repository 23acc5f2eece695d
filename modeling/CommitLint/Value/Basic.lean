import CommitLint.Double.Basic
import CommitLint.Value.Timestamp

/-!
# Values

Settings and records come from outside as untyped values: nothing, a truth
value, a whole number of any size, a fraction of double precision, a text, a
timestamp, a list, or a table of named values in the order of their first
appearance.
-/

namespace CommitLint

/-- A value of unknown type. -/
inductive Value where
  | null
  | bool (b : Bool)
  | int (n : Int)
  | fraction (x : Double)
  | text (t : Text)
  | timestamp (t : Timestamp)
  | list (items : List Value)
  | table (entries : List (Text × Value))
  deriving Repr, Inhabited

namespace Value

/-- The value of a name in a table. -/
def find? (name : Text) (entries : List (Text × Value)) : Option Value :=
  entries.lookup name

/-- Replace the value of a name; other entries stay as they are. -/
def replace (name : Text) (v : Value) (entries : List (Text × Value)) :
    List (Text × Value) :=
  entries.map fun e => if e.1 = name then (e.1, v) else e

/-- Whether a value counts as present: not nothing, false, zero or empty. -/
def isTruthy : Value → Bool
  | null => false
  | bool b => b
  | int n => n != 0
  | fraction x => !x.isZero
  | text t => !t.isEmpty
  | timestamp _ => true
  | list items => !items.isEmpty
  | table entries => !entries.isEmpty

/-! ## Small facts -/

/-- A replaced value is found under its name. -/
theorem find?_replace_self {name : Text} {v w : Value} {es : List (Text × Value)}
    (h : find? name es = some w) : find? name (replace name v es) = some v := by
  induction es with
  | nil => simp [find?] at h
  | cons e es ih =>
    obtain ⟨k, x⟩ := e
    by_cases hk : k = name
    · simp [find?, replace, hk]
    · have hb : (name == k) = false := beq_false_of_ne (Ne.symm hk)
      simp only [find?, List.lookup_cons, hb] at h ih ⊢
      simpa [replace, hk, List.lookup_cons, hb] using ih h

/-- Other names are not touched. -/
theorem find?_replace_of_ne {name k : Text} (v : Value) (es : List (Text × Value))
    (h : k ≠ name) : find? k (replace name v es) = find? k es := by
  induction es with
  | nil => rfl
  | cons e es ih =>
    obtain ⟨l, x⟩ := e
    simp only [find?, replace, List.map_cons] at ih ⊢
    by_cases hl : l = name
    · have hb : (k == name) = false := beq_false_of_ne h
      simpa [hl, List.lookup_cons, hb] using ih
    · simp only [if_neg hl, List.lookup_cons, ih]

/-- A name that passes a filter is found as before. -/
theorem find?_filter {name : Text} {keep : Text → Bool} (hKeep : keep name = true)
    (es : List (Text × Value)) : find? name (es.filter fun e => keep e.1) = find? name es := by
  induction es with
  | nil => rfl
  | cons e es ih =>
      obtain ⟨k, x⟩ := e
      simp only [find?] at ih ⊢
      rw [List.filter_cons]
      by_cases hk : keep k = true
      · rw [if_pos hk, List.lookup_cons, List.lookup_cons, ih]
      · have hb : (name == k) = false := beq_false_of_ne fun hEq => hk (hEq ▸ hKeep)
        rw [if_neg hk, List.lookup_cons, hb]
        exact ih

end Value

end CommitLint
