import CommitLint.Text.Lines

/-!
# Trimming across a boundary

Trimming looks at the two ends of a text only.  This file says what it does to
a text that is put together from parts: a blank part at an end disappears, and
a part that is not blank shields everything on its far side.

The second half carries this over to lines.  `Tidy` describes the lines of a
trimmed text that is not blank, and `lines_trim_unlines` reads off the lines of
a text whose header has been edited: only a header that stands alone can lose
blank characters at its end.
-/

namespace CommitLint.Text

/-! ## Parts of a text -/

@[simp] theorem blank_append (s t : Text) : blank (s ++ t) = (blank s && blank t) := by
  simp [blank]

theorem blank_of_mem {t : Text} (hBlank : blank t = true) {c : Char} (hMem : c ∈ t) :
    isBlank c = true := by
  simp only [blank, List.all_eq_true] at hBlank
  exact hBlank c hMem

theorem not_blank_of_mem {t : Text} {c : Char} (hMem : c ∈ t) (hInk : isBlank c = false) :
    blank t = false := by
  cases hBlank : blank t with
  | false => rfl
  | true =>
      rw [blank_of_mem hBlank hMem] at hInk
      contradiction

/-- One head that is not blank is every head. -/
theorem head?_of_exists {t : Text} (hHead : ∃ c ∈ t.head?, isBlank c = false) :
    ∀ c ∈ t.head?, isBlank c = false := by
  obtain ⟨c, hc, hInk⟩ := hHead
  intro d hd
  rw [Option.mem_def.1 hc, Option.mem_def, Option.some_inj] at hd
  rw [← hd]
  exact hInk

/-- A text without a character is taken whole on the way to that character. -/
theorem takeWhile_bne_append {d : Char} {s : Text} (hNone : d ∉ s) (t : Text) :
    (s ++ t).takeWhile (· != d) = s ++ t.takeWhile (· != d) ∧
      (s ++ t).dropWhile (· != d) = t.dropWhile (· != d) := by
  have hInside : ∀ c ∈ s, (c != d) = true := by
    intro c hc
    have hNe : c ≠ d := fun hEq => hNone (hEq ▸ hc)
    simpa using hNe
  exact ⟨List.takeWhile_append_of_pos hInside, List.dropWhile_append_of_pos hInside⟩

/-- Removing a leading blank run leaves a blank part and the rest. -/
theorem exists_trimStart (t : Text) : ∃ b, blank b = true ∧ t = b ++ trimStart t := by
  refine ⟨t.takeWhile isBlank, ?_, ?_⟩
  · simp [blank]
  · exact (List.takeWhile_append_dropWhile).symm

/-- Removing a trailing blank run leaves the rest and a blank part. -/
theorem exists_trimEnd (t : Text) : ∃ b, blank b = true ∧ t = trimEnd t ++ b := by
  obtain ⟨b, hBlank, hEq⟩ := exists_trimStart t.reverse
  refine ⟨b.reverse, ?_, ?_⟩
  · simpa [blank] using hBlank
  · have h := congrArg List.reverse hEq
    simpa [trimEnd, trimStart] using h

theorem trimStart_append_of_blank {b : Text} (hBlank : blank b = true) (t : Text) :
    trimStart (b ++ t) = trimStart t := by
  unfold trimStart
  exact List.dropWhile_append_of_pos fun c hc => blank_of_mem hBlank hc

theorem trimStart_append {s : Text} (hInk : blank s = false) (t : Text) :
    trimStart (s ++ t) = trimStart s ++ t := by
  unfold trimStart
  rw [List.dropWhile_append]
  have hNe : trimStart s ≠ [] := by
    intro hNil
    have hInkNil : ink s = [] := by rw [← ink_trimStart, hNil]; rfl
    rw [ink_eq_nil_iff, hInk] at hInkNil
    contradiction
  simp only [trimStart] at hNe
  simp [hNe]

theorem trimEnd_append_of_blank (s : Text) {b : Text} (hBlank : blank b = true) :
    trimEnd (s ++ b) = trimEnd s := by
  have hRev : blank b.reverse = true := by simpa [blank] using hBlank
  have h := trimStart_append_of_blank hRev s.reverse
  simp only [trimStart] at h
  simp [trimEnd, h]

theorem trimEnd_append (s : Text) {t : Text} (hInk : blank t = false) :
    trimEnd (s ++ t) = s ++ trimEnd t := by
  have hRev : blank t.reverse = false := by simpa [blank] using hInk
  have h := trimStart_append hRev s.reverse
  simp only [trimStart] at h
  simp [trimEnd, h]

theorem trimEnd_of_blank {t : Text} (hBlank : blank t = true) : trimEnd t = [] := by
  have h := trimEnd_append_of_blank [] hBlank
  rw [List.nil_append] at h
  rw [h]
  rfl

/-- A character that is not blank stays, whatever stands behind it. -/
theorem trimEnd_cons {c : Char} (hInk : isBlank c = false) (t : Text) :
    trimEnd (c :: t) = c :: trimEnd t := by
  cases hBlank : blank t with
  | false => exact trimEnd_append [c] hBlank
  | true =>
      have hOne : trimEnd [c] = [c] := by simp [trimEnd, hInk]
      rw [trimEnd_of_blank hBlank, ← hOne]
      exact trimEnd_append_of_blank [c] hBlank

/-- The two ends are trimmed independently of each other. -/
theorem trimEnd_trimStart (t : Text) : trimEnd (trimStart t) = trimStart (trimEnd t) := by
  cases hBlank : blank t with
  | true =>
      rw [trimStart_of_blank hBlank, trimEnd_of_blank hBlank]
      rfl
  | false =>
      obtain ⟨b, hb, hEq⟩ := exists_trimStart t
      have hInk : blank (trimStart t) = false := by
        rw [hEq, blank_append, hb] at hBlank
        simpa using hBlank
      have hEnd : trimEnd t = b ++ trimEnd (trimStart t) := by
        conv => lhs; rw [hEq]
        exact trimEnd_append b hInk
      rw [hEnd, trimStart_append_of_blank hb]
      refine (trimStart_of_head ?_).symm
      intro c hc
      exact not_blank_head_trim (t := t) hc

@[simp] theorem trimStart_trimStart (t : Text) : trimStart (trimStart t) = trimStart t :=
  trimStart_of_head fun _ hc => head?_trimStart hc

@[simp] theorem trimEnd_trimEnd (t : Text) : trimEnd (trimEnd t) = trimEnd t :=
  trimEnd_of_getLast fun _ hc => getLast?_trimEnd hc

@[simp] theorem trim_trimStart (t : Text) : trim (trimStart t) = trim t := by
  simp [trim]

@[simp] theorem trim_trimEnd (t : Text) : trim (trimEnd t) = trim t := by
  rw [trim, trimEnd_trimStart, trimEnd_trimEnd, ← trimEnd_trimStart, trim]

theorem trim_blank_append {b : Text} (hBlank : blank b = true) (t : Text) :
    trim (b ++ t) = trim t := by
  rw [trim, trimStart_append_of_blank hBlank, trim]

theorem trim_append_blank (s : Text) {b : Text} (hBlank : blank b = true) :
    trim (s ++ b) = trim s := by
  rw [← trim_trimEnd, trimEnd_append_of_blank s hBlank, trim_trimEnd]

/-- Only blank characters are trimmed off. -/
theorem exists_trim (t : Text) :
    ∃ front back, blank front = true ∧ blank back = true ∧ t = front ++ trim t ++ back := by
  obtain ⟨front, hFront, hStart⟩ := exists_trimStart t
  obtain ⟨back, hBack, hEnd⟩ := exists_trimEnd (trimStart t)
  refine ⟨front, back, hFront, hBack, ?_⟩
  calc t = front ++ trimStart t := hStart
    _ = front ++ (trim t ++ back) := congrArg (front ++ ·) hEnd
    _ = front ++ trim t ++ back := (List.append_assoc ..).symm

theorem trim_subset (t : Text) : trim t ⊆ t := fun _ hc =>
  (trimStart_suffix t).subset ((trimEnd_isPrefix _).subset hc)

theorem trim_of_blank {t : Text} (hBlank : blank t = true) : trim t = [] :=
  (trim_eq_nil_iff t).2 hBlank

theorem trim_ne_nil_iff (t : Text) : trim t ≠ [] ↔ blank t = false := by
  rw [Ne, trim_eq_nil_iff, Bool.not_eq_true]

/-- What is trimmed and not empty is not blank. -/
theorem not_blank_of_trim_eq_self {t : Text} (hTrim : trim t = t) (hNe : t ≠ []) :
    blank t = false := by
  rwa [← trim_ne_nil_iff, hTrim]

@[simp] theorem blank_trim (t : Text) : blank (trim t) = blank t :=
  blank_eq_of_ink_eq (ink_trim t)

@[simp] theorem blank_trimEnd (t : Text) : blank (trimEnd t) = blank t :=
  blank_eq_of_ink_eq (ink_trimEnd t)

/-- A text that is not blank ends, up to blank characters, as its trimmed form
does. -/
theorem getLast?_trim (t : Text) : (trim t).getLast? = (trimEnd t).getLast? := by
  cases hBlank : blank t with
  | true => rw [trim_of_blank hBlank, trimEnd_of_blank hBlank]
  | false =>
      obtain ⟨b, _, hEq⟩ := exists_trimStart (trimEnd t)
      rw [← trimEnd_trimStart] at hEq
      have hTrim : trimEnd (trimStart t) ≠ [] := (trim_ne_nil_iff t).2 hBlank
      obtain ⟨c, hLast⟩ := Option.isSome_iff_exists.1 (List.getLast?_isSome.2 hTrim)
      rw [hEq, List.getLast?_append, trim, hLast]
      simp

theorem nonempty?_eq_some_iff {t s : Text} : nonempty? t = some s ↔ t = s ∧ s ≠ [] := by
  unfold nonempty?
  cases t with
  | nil => simp
  | cons c cs => simp; grind

theorem getD_nonempty? (t : Text) : (nonempty? t).getD [] = t := by
  cases t with
  | nil => rfl
  | cons c cs => rfl

/-! ## Lines of a trimmed text -/

theorem isBlank_newline : isBlank '\n' = true := by decide

theorem newline_not_mem_of_mem_lines {t l : Text} (hMem : l ∈ lines t) : '\n' ∉ l :=
  not_mem_pieces hMem

theorem firstLine_of_lines {t l : Text} {rest : List Text} (hLines : lines t = l :: rest) :
    firstLine t = l := by
  have hHead := firstLine_eq t
  rw [hLines, List.head?_cons, Option.some_inj] at hHead
  exact hHead.symm

theorem lines_eq_cons (t : Text) : ∃ rest, lines t = firstLine t :: rest := by
  obtain ⟨l, rest, hLines⟩ := List.exists_cons_of_ne_nil (lines_ne_nil t)
  exact ⟨rest, by rw [hLines, firstLine_of_lines hLines]⟩

theorem unlines_cons {ls : List Text} (l : Text) (hNe : ls ≠ []) :
    unlines (l :: ls) = l ++ '\n' :: unlines ls := by
  cases ls with
  | nil => contradiction
  | cons m ms => exact unlines_cons_cons l m ms

/-- Joining lines adds blank characters only. -/
@[simp] theorem ink_unlines (ls : List Text) : ink (unlines ls) = ls.flatMap ink := by
  induction ls with
  | nil => rfl
  | cons l ls ih =>
      cases ls with
      | nil => simp
      | cons m ms =>
          rw [unlines_cons l (by simp), ink_append, List.flatMap_cons, ← ih]
          simp [ink, isBlank_newline]

theorem unlines_append {ks ls : List Text} (hks : ks ≠ []) (hls : ls ≠ []) :
    unlines (ks ++ ls) = unlines ks ++ '\n' :: unlines ls := by
  induction ks with
  | nil => contradiction
  | cons k ks ih =>
      cases ks with
      | nil => simpa using unlines_cons k hls
      | cons m ms =>
          have hTail := ih (by simp)
          rw [List.cons_append, unlines_cons k (by simp), hTail, unlines_cons_cons]
          simp

/-- Joining does not tell a text from its lines. -/
theorem unlines_splice (front back : List Text) (x : Text) :
    unlines (front ++ x :: back) = unlines (front ++ (lines x ++ back)) := by
  have hBack : unlines (x :: back) = unlines (lines x ++ back) := by
    by_cases hNil : back = []
    · simp [hNil, unlines_lines]
    · rw [unlines_cons x hNil, unlines_append (lines_ne_nil x) hNil, unlines_lines]
  by_cases hNil : front = []
  · simpa [hNil] using hBack
  · have hNe : lines x ++ back ≠ [] := by simp [lines_ne_nil]
    rw [unlines_append hNil (by simp), unlines_append hNil hNe, hBack]

/-- A line that is replaced by a text contributes the lines of that text. -/
theorem lines_unlines_splice {front back : List Text} {x : Text}
    (hFront : ∀ l ∈ front, '\n' ∉ l) (hBack : ∀ l ∈ back, '\n' ∉ l) :
    lines (unlines (front ++ x :: back)) = front ++ (lines x ++ back) := by
  rw [unlines_splice]
  apply lines_unlines
  · simp [lines_ne_nil]
  · intro l hl
    rcases List.mem_append.1 hl with hl | hl
    · exact hFront l hl
    · rcases List.mem_append.1 hl with hl | hl
      · exact newline_not_mem_of_mem_lines hl
      · exact hBack l hl

/-- A joined text begins with its first line. -/
theorem mem_head?_unlines {l : Text} {c : Char} (hc : c ∈ l.head?) (ls : List Text) :
    c ∈ (unlines (l :: ls)).head? := by
  cases ls with
  | nil => simpa using hc
  | cons m ms =>
      rw [unlines_cons_cons, List.head?_append, Option.mem_def.1 hc]
      rfl

theorem firstLine_append {s : Text} (hFeed : '\n' ∉ s) (t : Text) :
    firstLine (s ++ t) = s ++ firstLine t := (takeWhile_bne_append hFeed t).1

theorem getLast?_unlines {ls : List Text} {l : Text} (hLast : l ∈ ls.getLast?)
    (hNe : l ≠ []) : (unlines ls).getLast? = l.getLast? := by
  induction ls with
  | nil => simp at hLast
  | cons k ks ih =>
      cases ks with
      | nil =>
          have hEq : k = l := by simpa using hLast
          rw [hEq, unlines_singleton]
      | cons m ms =>
          have hTail := ih (by simpa using hLast)
          obtain ⟨c, hc⟩ := Option.isSome_iff_exists.1 (List.getLast?_isSome.2 hNe)
          rw [unlines_cons_cons, List.getLast?_append, List.getLast?_cons, hTail, hc]
          simp

theorem mem_head?_of_isPrefix {s t : Text} (h : s <+: t) {c : Char} (hc : c ∈ s.head?) :
    c ∈ t.head? := by
  obtain ⟨r, rfl⟩ := h
  rw [List.head?_append, Option.mem_def.1 hc]
  rfl

/-- A text that does not begin with a blank character begins as its trimmed
header does. -/
theorem head?_firstLine_trim {t : Text} {c : Char} (hc : c ∈ t.head?)
    (hInk : isBlank c = false) : c ∈ (firstLine (trim t)).head? := by
  have hStart : trimStart t = t := trimStart_of_head (head?_of_exists ⟨c, hc, hInk⟩)
  have hNe : trimEnd t ≠ [] := by
    intro hNil
    have hBlank : blank t = true := by rw [← blank_trimEnd, hNil]; rfl
    rw [not_blank_of_mem (List.mem_of_mem_head? hc) hInk] at hBlank
    contradiction
  rw [trim, hStart]
  cases hEnd : trimEnd t with
  | nil => contradiction
  | cons d ds =>
      have hd : d ∈ t.head? := mem_head?_of_isPrefix (trimEnd_isPrefix t) (by simp [hEnd])
      rw [Option.mem_def.1 hc] at hd
      have hdc : c = d := by simpa using hd
      have hFeed : d ≠ '\n' := by
        intro h
        rw [hdc, h, isBlank_newline] at hInk
        contradiction
      simp [firstLine, hFeed, hdc]

/-- The lines of a trimmed text that is not blank: none holds a line feed, and
neither end is blank. -/
structure Tidy (ls : List Text) : Prop where
  noFeed : ∀ l ∈ ls, '\n' ∉ l
  headInk : ∃ l ∈ ls.head?, ∃ c ∈ l.head?, isBlank c = false
  lastInk : ∃ l ∈ ls.getLast?, ∃ c ∈ l.getLast?, isBlank c = false

theorem tidy_lines_trim {t : Text} (hInk : blank t = false) : Tidy (lines (trim t)) := by
  have hNe : trim t ≠ [] := (trim_ne_nil_iff t).2 hInk
  refine
    { noFeed := fun l hl => newline_not_mem_of_mem_lines hl
      headInk := ?_
      lastInk := ?_ }
  · refine ⟨firstLine (trim t), firstLine_eq _, ?_⟩
    cases hTrim : trim t with
    | nil => contradiction
    | cons c cs =>
        have hc : isBlank c = false := not_blank_head_trim (t := t) (by simp [hTrim])
        refine ⟨c, ?_, hc⟩
        have hFeed : c ≠ '\n' := by
          intro h
          rw [h, isBlank_newline] at hc
          contradiction
        simp [firstLine, hFeed]
  · obtain ⟨l, hl⟩ := Option.isSome_iff_exists.1 (List.getLast?_isSome.2 (lines_ne_nil (trim t)))
    obtain ⟨c, hc⟩ := Option.isSome_iff_exists.1 (List.getLast?_isSome.2 hNe)
    have hcInk : isBlank c = false := not_blank_last_trim hc
    refine ⟨l, hl, c, ?_, hcInk⟩
    by_cases hlNe : l = []
    · -- a last line without characters would leave a line feed at the end
      exfalso
      obtain ⟨front, hFront⟩ := List.getLast?_eq_some_iff.1 hl
      have hJoined := unlines_lines (trim t)
      rw [hFront, hlNe] at hJoined
      by_cases hNil : front = []
      · rw [hNil] at hJoined
        exact hNe (by simpa using hJoined.symm)
      · rw [unlines_append hNil (by simp)] at hJoined
        rw [← hJoined] at hc
        have hFeed : c = '\n' := by simpa using hc.symm
        rw [hFeed, isBlank_newline] at hcInk
        contradiction
    · rw [← getLast?_unlines hl hlNe, unlines_lines]
      exact hc

/-- The end that is not blank is below the header if any line is. -/
theorem Tidy.lastInk_below {l : Text} {below : List Text} (h : Tidy (l :: below))
    (hNe : below ≠ []) : ∃ k ∈ below.getLast?, ∃ c ∈ k.getLast?, isBlank c = false := by
  obtain ⟨k, hk, hInk⟩ := h.lastInk
  obtain ⟨m, ms, rfl⟩ := List.exists_cons_of_ne_nil hNe
  exact ⟨k, by simpa using hk, hInk⟩

/-- Joining tidy lines gives a trimmed text. -/
theorem Tidy.trim_unlines {ls : List Text} (h : Tidy ls) : trim (unlines ls) = unlines ls := by
  obtain ⟨k, hk, c, hc, hcInk⟩ := h.headInk
  obtain ⟨l, hl, d, hd, hdInk⟩ := h.lastInk
  rw [trim_eq_self_iff]
  constructor
  · intro x hx
    cases ls with
    | nil => simp at hk
    | cons m ms =>
        have hmk : m = k := by simpa using hk
        subst hmk
        exact head?_of_exists ⟨c, mem_head?_unlines hc ms, hcInk⟩ x hx
  · intro x hx
    have hlNe : l ≠ [] := by
      intro hNil
      simp [hNil] at hd
    rw [getLast?_unlines hl hlNe, Option.mem_def.1 hd] at hx
    have hxd : x = d := by simpa using hx.symm
    rw [hxd]
    exact hdInk

theorem Tidy.ne_nil {ls : List Text} (h : Tidy ls) : ls ≠ [] := by
  obtain ⟨k, hk, -⟩ := h.headInk
  intro hNil
  simp [hNil] at hk

/-- An empty line can stand between two lines. -/
theorem Tidy.insert_empty {l m : Text} {ls : List Text} (h : Tidy (l :: m :: ls)) :
    Tidy (l :: [] :: m :: ls) where
  noFeed := by
    intro k hk
    simp only [List.mem_cons] at hk
    rcases hk with rfl | rfl | hk
    · exact h.noFeed _ (by simp)
    · simp
    · exact h.noFeed k (by simp [hk])
  headInk := h.headInk
  lastInk := by
    obtain ⟨k, hk, hInk⟩ := h.lastInk_below (by simp)
    exact ⟨k, by simpa using hk, hInk⟩

/-- What the first line begins with can give way to a word. -/
theorem Tidy.replace_head {s w x : Text} {ls : List Text} (h : Tidy ((s ++ x) :: ls))
    (hWord : ∀ c ∈ w, isBlank c = false) (hNe : w ≠ []) : Tidy ((w ++ x) :: ls) where
  noFeed := by
    intro l hl
    rcases List.mem_cons.1 hl with rfl | hl
    · intro hFeed
      rcases List.mem_append.1 hFeed with hFeed | hFeed
      · exact absurd (hWord _ hFeed) (by decide)
      · exact h.noFeed _ (by simp) (List.mem_append_right s hFeed)
    · exact h.noFeed l (by simp [hl])
  headInk := by
    obtain ⟨c, cs, rfl⟩ := List.exists_cons_of_ne_nil hNe
    exact ⟨_, rfl, c, rfl, hWord c (by simp)⟩
  lastInk := by
    obtain ⟨l, hl, c, hc, hInk⟩ := h.lastInk
    by_cases hMore : ls = []
    · obtain rfl : s ++ x = l := by simpa [hMore] using hl
      refine ⟨w ++ x, by simp [hMore], ?_⟩
      by_cases hNone : x = []
      · obtain ⟨d, hd⟩ := Option.isSome_iff_exists.1 (List.getLast?_isSome.2 hNe)
        exact ⟨d, by simpa [hNone] using hd, hWord d (List.mem_of_getLast? hd)⟩
      · obtain ⟨d, hd⟩ := Option.isSome_iff_exists.1 (List.getLast?_isSome.2 hNone)
        rw [List.getLast?_append, hd] at hc
        rw [List.getLast?_append, hd]
        exact ⟨c, hc, hInk⟩
    · obtain ⟨k, ks, rfl⟩ := List.exists_cons_of_ne_nil hMore
      exact ⟨l, by simpa using hl, c, hc, hInk⟩

theorem Tidy.lines_trim {ls : List Text} (h : Tidy ls) : lines (trim (unlines ls)) = ls := by
  rw [h.trim_unlines, lines_unlines h.ne_nil h.noFeed]

/-- The lines of a text whose header has been edited.  The edit may leave blank
characters at the end of the header; trimming takes them away if no line
follows. -/
theorem lines_trim_unlines {header : Text} {rest : List Text}
    (hFeed : ∀ l ∈ header :: rest, '\n' ∉ l)
    (hHead : ∃ c ∈ header.head?, isBlank c = false)
    (hLast : rest ≠ [] → ∃ l ∈ rest.getLast?, ∃ c ∈ l.getLast?, isBlank c = false) :
    lines (trim (unlines (header :: rest))) =
      (if rest = [] then trimEnd header else header) :: rest := by
  by_cases hRest : rest = []
  · have hStart : trimStart header = header := trimStart_of_head (head?_of_exists hHead)
    have hLine : '\n' ∉ trimEnd header := fun hMem =>
      hFeed header (by simp) ((trimEnd_isPrefix header).subset hMem)
    rw [if_pos hRest, hRest, unlines_singleton, trim, hStart]
    exact pieces_eq_singleton hLine
  · rw [if_neg hRest]
    refine Tidy.lines_trim
      { noFeed := hFeed
        headInk := ⟨header, by simp, hHead⟩
        lastInk := ?_ }
    obtain ⟨l, hl, hInk⟩ := hLast hRest
    refine ⟨l, ?_, hInk⟩
    rw [List.getLast?_cons, Option.mem_def.1 hl]
    simp

end CommitLint.Text
