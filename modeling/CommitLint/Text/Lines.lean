import CommitLint.Text.Blank

/-!
# Lines

A text is a non-empty sequence of lines separated by line feeds.  The line
feed alone ends a line: a carriage return and the Unicode separators stay
inside it.  `lines` and `unlines` are inverse to each other on texts and on
non-empty lists of lines that hold no line feed.

Lines are a case of `pieces`, which cuts a text at every occurrence of one
character.
-/

namespace CommitLint.Text

/-- The parts of a text between the occurrences of a character; there is always
at least one. -/
def pieces (separator : Char) : Text → List Text
  | [] => [[]]
  | c :: cs =>
    if c = separator then [] :: pieces separator cs
    else
      match pieces separator cs with
      | [] => [[c]]
      | p :: ps => (c :: p) :: ps

/-- The parts between line feeds. -/
def lines (t : Text) : List Text := pieces '\n' t

/-- Join lines with a line feed between any two. -/
def unlines (ls : List Text) : Text := ['\n'].intercalate ls

/-- The text up to the first line feed. -/
def firstLine (t : Text) : Text := t.takeWhile (· != '\n')

/-- Replace the first line by its image; the other lines stay. -/
def mapFirstLine (f : Text → Text) (t : Text) : Text :=
  match lines t with
  | [] => []
  | l :: ls => unlines (f l :: ls)

/-- Read a carriage return, alone or before a line feed, as a line feed. -/
def unifyLineEnds : Text → Text
  | [] => []
  | '\r' :: '\n' :: cs => '\n' :: unifyLineEnds cs
  | '\r' :: cs => '\n' :: unifyLineEnds cs
  | c :: cs => c :: unifyLineEnds cs

/-- Read a carriage return before a line feed as nothing; a lone one stays. -/
def foldCarriageReturns : Text → Text
  | [] => []
  | '\r' :: '\n' :: cs => '\n' :: foldCarriageReturns cs
  | c :: cs => c :: foldCarriageReturns cs

/-! ## Small facts -/

theorem pieces_ne_nil (separator : Char) (t : Text) : pieces separator t ≠ [] := by
  fun_cases pieces separator t <;> simp [*]

theorem lines_ne_nil (t : Text) : lines t ≠ [] := pieces_ne_nil '\n' t

@[simp] theorem unlines_nil : unlines [] = [] := rfl

@[simp] theorem unlines_singleton (l : Text) : unlines [l] = l := by
  simp [unlines, List.intercalate]

@[simp] theorem unlines_cons_cons (l m : Text) (ls : List Text) :
    unlines (l :: m :: ls) = l ++ '\n' :: unlines (m :: ls) := by
  simp [unlines, List.intercalate, List.intersperse]

/-- Joining the lines of a text gives the text back. -/
theorem unlines_lines (t : Text) : unlines (lines t) = t := by
  unfold lines
  fun_induction pieces '\n' t with
  | case1 => simp
  | case2 cs ih =>
    cases h : pieces '\n' cs with
    | nil => exact absurd h (pieces_ne_nil '\n' cs)
    | cons l ls =>
      rw [h] at ih
      simp [ih]
  | case3 c cs hc h ih => exact absurd h (pieces_ne_nil '\n' cs)
  | case4 c cs hc l ls h ih =>
    rw [h] at ih
    cases ls with
    | nil => simpa using ih
    | cons m ms => simpa using ih

/-- No piece holds the separator. -/
theorem not_mem_pieces {separator : Char} {t p : Text} (h : p ∈ pieces separator t) :
    separator ∉ p := by
  fun_induction pieces separator t generalizing p with
  | case1 => simp_all
  | case2 cs ih =>
    rcases List.mem_cons.1 h with rfl | h
    · simp
    · exact ih h
  | case3 c cs hc hp ih =>
    rw [List.mem_singleton.1 h]
    simpa using Ne.symm hc
  | case4 c cs hc q qs hq ih =>
    rcases List.mem_cons.1 h with rfl | h
    · have := ih (p := q) (by simp [hq])
      simp [Ne.symm hc, this]
    · exact ih (by simp [hq, h])

theorem pieces_eq_singleton {separator : Char} {t : Text} (h : separator ∉ t) :
    pieces separator t = [t] := by
  induction t with
  | nil => rfl
  | cons c cs ih =>
    simp only [List.mem_cons, not_or] at h
    simp [pieces, ih h.2, Ne.symm h.1]

theorem pieces_append {separator : Char} {s : Text} (h : separator ∉ s) (t : Text) :
    pieces separator (s ++ separator :: t) = s :: pieces separator t := by
  induction s with
  | nil => simp [pieces]
  | cons c cs ih =>
    simp only [List.mem_cons, not_or] at h
    simp [pieces, ih h.2, Ne.symm h.1]

/-- Texts that hold no separator are the pieces of what they make when joined. -/
theorem pieces_intercalate {separator : Char} {ps : List Text} (hne : ps ≠ [])
    (h : ∀ p ∈ ps, separator ∉ p) : pieces separator ([separator].intercalate ps) = ps := by
  induction ps with
  | nil => exact absurd rfl hne
  | cons p ps ih =>
    cases ps with
    | nil => simpa [List.intercalate] using pieces_eq_singleton (h p (by simp))
    | cons q qs =>
      rw [List.intercalate_cons_cons, List.append_assoc, List.singleton_append,
        pieces_append (h p (by simp))]
      congr 1
      exact ih (by simp) fun x hx => h x (by simp [hx])

/-- Lines that hold no line feed are the lines of what they make when joined. -/
theorem lines_unlines {ls : List Text} (hne : ls ≠ []) (h : ∀ l ∈ ls, '\n' ∉ l) :
    lines (unlines ls) = ls := pieces_intercalate hne h

theorem firstLine_eq (t : Text) : (lines t).head? = some (firstLine t) := by
  unfold lines firstLine
  fun_induction pieces '\n' t with
  | case1 => rfl
  | case2 cs ih => simp
  | case3 c cs hc hp ih => exact absurd hp (pieces_ne_nil '\n' cs)
  | case4 c cs hc q qs hq ih =>
    rw [hq] at ih
    have : (c != '\n') = true := by simpa using hc
    simp_all

end CommitLint.Text
