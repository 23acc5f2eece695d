import CommitLint.Text.Blank

/-!
# Headers

The first line of a message has the form

    type(scope): subject

where the scope with its parentheses, the colon and the subject may each be
missing.  Reading is tolerant.  A line that begins with an ASCII letter has a
type: the maximal run of letters at its head.  A scope follows only if the very
next character opens a parenthesis and some later one closes it; it reaches to
the first closing one.  A colon counts if it is the first character that is
not blank after that.  A line that begins with anything else has no type, and
all of it is the subject.
-/

namespace CommitLint

/-- The parts of a header. -/
structure Header where
  /-- The leading run of letters. -/
  type : Option Text
  /-- The text between the parentheses; it may be empty. -/
  scope : Option Text
  /-- Whether a colon separates the subject. -/
  hasColon : Bool
  /-- The trimmed rest, when something is left. -/
  subject : Option Text
  deriving DecidableEq, Repr

namespace Header

open Text

/-- A scope in parentheses at the head of a text, and what follows it. -/
def scope? : Text → Option (Text × Text)
  | '(' :: r =>
    match r.dropWhile (· != ')') with
    | [] => none
    | _ :: rest => some (r.takeWhile (· != ')'), rest)
  | _ => none

/-- A line that begins with a type, taken apart before the separator. -/
structure Opening where
  type : Text
  scope : Option Text
  rest : Text
  deriving DecidableEq, Repr

/-- The scope with its parentheses, or nothing. -/
def bracketed : Option Text → Text
  | none => []
  | some s => '(' :: s ++ [')']

/-- Take the type and the scope off a line, if it begins with a type. -/
def opening? (line : Text) : Option Opening :=
  match line.takeWhile isLetter with
  | [] => none
  | c :: cs =>
    let rest := line.dropWhile isLetter
    match scope? rest with
    | some (s, rest) => some ⟨c :: cs, some s, rest⟩
    | none => some ⟨c :: cs, none, rest⟩

/-- The subject after the separator, and whether the separator has a colon. -/
def separated (rest : Text) : Bool × Option Text :=
  match trimStart rest with
  | ':' :: r => (true, nonempty? (trim r))
  | r => (false, nonempty? (trim r))

/-- Read a line as a header; every line has a reading. -/
def parse (line : Text) : Header :=
  match opening? line with
  | none => ⟨none, none, false, nonempty? (trim line)⟩
  | some o =>
    let (hasColon, subject) := separated o.rest
    ⟨some o.type, o.scope, hasColon, subject⟩

/-- A header in its usual form. -/
def write (type : Text) (scope : Option Text) (subject : Text) : Text :=
  type ++ bracketed scope ++ ':' :: ' ' :: subject

/-! ## Small facts -/

/-- What is taken off a line is what it began with. -/
theorem eq_of_scope? {t s rest : Text} (h : scope? t = some (s, rest)) :
    t = '(' :: s ++ ')' :: rest := by
  unfold scope? at h
  split at h
  · rename_i r
    split at h
    · simp at h
    · rename_i c cs hd
      simp only [Option.some.injEq, Prod.mk.injEq] at h
      obtain ⟨rfl, rfl⟩ := h
      have hc : c = ')' := by
        have := List.head?_dropWhile_not (· != ')') r
        simpa [hd] using this
      subst hc
      rw [List.cons_append, ← hd, List.takeWhile_append_dropWhile]
  · simp at h

/-- The parts before the separator and the rest make up the line. -/
theorem eq_of_opening? {line : Text} {o : Opening} (h : opening? line = some o) :
    line = o.type ++ bracketed o.scope ++ o.rest := by
  unfold opening? at h
  split at h
  · simp at h
  · rename_i c cs ht
    have hline : line = (c :: cs) ++ line.dropWhile isLetter := by
      rw [← ht, List.takeWhile_append_dropWhile]
    dsimp only at h
    split at h
    · rename_i s rest hs
      obtain rfl := Option.some.inj h
      rw [hline, eq_of_scope? hs]
      simp [bracketed]
    · obtain rfl := Option.some.inj h
      simpa [bracketed] using hline

end Header

end CommitLint
