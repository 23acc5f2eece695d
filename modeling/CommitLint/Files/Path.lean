import CommitLint.Text.Lines

/-!
# Paths

A path is kept as its parts.  Empty parts and single periods carry no
meaning, so that doubled and trailing slashes and a leading `./` disappear;
two periods stay, because what they mean depends on the directory before them.
-/

namespace CommitLint.Files

/-- A path without parts that carry no meaning. -/
structure Path where
  absolute : Bool
  parts : List Text
  deriving DecidableEq, Repr

namespace Path

/-- Two periods. -/
def up : Text := "..".toList

/-- A part that carries meaning. -/
def isStep (part : Text) : Bool := !part.isEmpty && part != ['.']

/-- Whether a text can be a path at all: the system ends paths at a NUL. -/
def isUsable (t : Text) : Bool := !t.contains '\x00'

/-- Read a path. -/
def ofText (t : Text) : Path := ⟨t.head? == some '/', (Text.pieces '/' t).filter isStep⟩

/-- Write a path; the one without parts is a single period. -/
def toText (p : Path) : Text :=
  let joined := ['/'].intercalate p.parts
  if p.absolute then '/' :: joined else if p.parts.isEmpty then ['.'] else joined

/-- The path without its last part. -/
def parent (p : Path) : Path := { p with parts := p.parts.dropLast }

/-- A part below a path. -/
def child (p : Path) (part : Text) : Path := { p with parts := p.parts ++ [part] }

/-- A path, as seen from a directory. -/
def under (base p : Path) : Path :=
  if p.absolute then p else { base with parts := base.parts ++ p.parts }

/-- Whether a text can be used as a path that stays below the directory it is
used in: it is not empty, does not begin with a slash, and holds neither two
periods in a row nor a backslash. -/
def isSafe (t : Text) : Bool :=
  !t.isEmpty && !Text.occursIn up t && t.head? != some '/' && !t.contains '\x5c'

/-! ## Small facts -/

/-- The parts of a path that has been read carry meaning and hold no slash. -/
theorem of_mem_parts {t part : Text} (h : part ∈ (ofText t).parts) :
    part ≠ [] ∧ part ≠ ['.'] ∧ '/' ∉ part := by
  obtain ⟨hp, hs⟩ := List.mem_filter.1 h
  refine ⟨?_, ?_, Text.not_mem_pieces hp⟩ <;> rintro rfl <;> simp [isStep] at hs

/-- A safe path is relative. -/
theorem absolute_of_isSafe {t : Text} (h : isSafe t = true) : (ofText t).absolute = false := by
  simp only [isSafe, Bool.and_eq_true] at h
  simpa [ofText] using h.1.2

end Path

end CommitLint.Files
