import CommitLint.Proofs.Body

/-!
# What is read off a text

The scan that reads a header goes from left to right and never back.  Here its
result is described by the line alone: `Header.Reads` says which parts a line has,
one clause for each way that a part can be present or absent, and the scan finds
these parts and no others (`Header.reads_iff`).  Nothing gets lost on the way: the
parts in their order are the line, up to blank characters (`Header.Reads.ink_toText`).

A message in its usual form says all of its parts in this sense, so it is read as
what it was written from, whatever blank characters stand around it.

Main results: `Message.parse?_reads`, `Message.parse?_write`.
-/

namespace CommitLint

open Text

namespace Header

/-! ## The parts of a line -/

/-- Which scope stands right behind a type, and what comes after it. -/
inductive ScopeAt : Text → Option Text → Text → Prop
  /-- No parenthesis opens here, or none closes it. -/
  | absent {t : Text} (hNone : ∀ r, t = '(' :: r → ')' ∉ r) : ScopeAt t none t
  /-- The first closing parenthesis ends the scope. -/
  | present {s rest : Text} (hFirst : ')' ∉ s) : ScopeAt ('(' :: s ++ ')' :: rest) (some s) rest

/-- Whether a colon separates the subject, and what comes after it. -/
inductive SeparatorAt : Text → Bool → Text → Prop
  /-- Only blank characters stand before the colon. -/
  | colon {gap r : Text} (hGap : blank gap = true) : SeparatorAt (gap ++ ':' :: r) true r
  /-- There is no colon, or a character that is not blank stands before it. -/
  | missing {r : Text} (hNone : ∀ gap s, blank gap = true → r ≠ gap ++ ':' :: s) :
      SeparatorAt r false r

/-- Which parts a line has. -/
inductive Reads : Text → Header → Prop
  /-- A line that does not begin with a letter is all subject. -/
  | untyped {line : Text} (hHead : ∀ c ∈ line.head?, isLetter c = false) :
      Reads line ⟨none, none, false, nonempty? (trim line)⟩
  /-- Otherwise the letters at its head are the type, all of them. -/
  | typed {type after rest r : Text} {scope : Option Text} {hasColon : Bool}
      (hNe : type ≠ []) (hLetters : ∀ c ∈ type, isLetter c = true)
      (hMaximal : ∀ c ∈ after.head?, isLetter c = false)
      (hScope : ScopeAt after scope rest) (hSeparator : SeparatorAt rest hasColon r) :
      Reads (type ++ after) ⟨some type, scope, hasColon, nonempty? (trim r)⟩

/-! ## The scan finds them -/

theorem ScopeAt.eq_append {after rest : Text} {scope : Option Text}
    (h : ScopeAt after scope rest) : after = bracketed scope ++ rest := by
  cases h with
  | absent => rfl
  | present => simp [bracketed]

/-- A type and the scope behind it are a sealed opening. -/
theorem ScopeAt.sealed {type after rest : Text} {scope : Option Text}
    (h : ScopeAt after scope rest) (hNe : type ≠ []) (hLetters : ∀ c ∈ type, isLetter c = true)
    (hMaximal : ∀ c ∈ after.head?, isLetter c = false) : Opening.Sealed ⟨type, scope, rest⟩ where
  type_ne_nil := hNe
  letters := hLetters
  scope_closed := by
    cases h with
    | absent => simp
    | present hFirst => simpa using hFirst
  rest_head := by
    cases h with
    | absent => exact fun _ => hMaximal
    | present => simp
  rest_scope := by
    cases h with
    | absent hNone => exact fun _ => (scope?_eq_none_iff _).2 hNone
    | present => simp

theorem Opening.Sealed.scopeAt {o : Opening} (h : o.Sealed) :
    ScopeAt (bracketed o.scope ++ o.rest) o.scope o.rest := by
  cases hScope : o.scope with
  | none =>
      have hNone := (scope?_eq_none_iff _).1 (h.rest_scope hScope)
      exact .absent hNone
  | some s =>
      have hFirst := h.scope_closed s hScope
      rw [bracketed, List.append_assoc, List.singleton_append]
      exact .present hFirst

theorem SeparatorAt.separated {rest r : Text} {hasColon : Bool}
    (h : SeparatorAt rest hasColon r) : separated rest = (hasColon, nonempty? (trim r)) := by
  cases h with
  | colon hGap => exact separated_of_colon hGap _
  | missing hNone =>
      apply separated_of_no_colon
      intro hColon
      obtain ⟨s, hStart⟩ := List.head?_eq_some_iff.1 hColon
      obtain ⟨gap, hGap, hEq⟩ := exists_trimStart rest
      rw [hStart] at hEq
      exact hNone gap s hGap hEq

theorem exists_separatorAt (rest : Text) : ∃ hasColon r, SeparatorAt rest hasColon r := by
  by_cases hColon : ∃ gap s, blank gap = true ∧ rest = gap ++ ':' :: s
  · obtain ⟨gap, s, hGap, rfl⟩ := hColon
    exact ⟨true, s, .colon hGap⟩
  · refine ⟨false, rest, .missing fun gap s hGap hEq => ?_⟩
    exact hColon ⟨gap, s, hGap, hEq⟩

/-- Every line has the parts that are read off it. -/
theorem reads_parse (line : Text) : Reads line (parse line) := by
  cases hOpening : opening? line with
  | none =>
      rw [parse_of_no_opening hOpening]
      exact .untyped ((opening?_eq_none_iff line).1 hOpening)
  | some o =>
      obtain ⟨hSealed, hLine⟩ := opening?_eq_some_iff.1 hOpening
      obtain ⟨hasColon, r, hSeparator⟩ := exists_separatorAt o.rest
      rw [parse_of_opening hOpening, hSeparator.separated, hLine, Opening.toText, List.append_assoc]
      exact .typed hSealed.type_ne_nil hSealed.letters (head?_after_type hSealed)
        hSealed.scopeAt hSeparator

/-- A line has no other parts. -/
theorem Reads.parse_eq {line : Text} {p : Header} (h : Reads line p) : parse line = p := by
  cases h with
  | untyped hHead => exact parse_of_no_opening ((opening?_eq_none_iff line).2 hHead)
  | typed hNe hLetters hMaximal hScope hSeparator =>
      rename_i type after rest r scope hasColon
      have hOpening := (hScope.sealed hNe hLetters hMaximal).opening?
      rw [Opening.toText, List.append_assoc, ← hScope.eq_append] at hOpening
      rw [parse_of_opening hOpening, hSeparator.separated]

/-- **The scan is exact**: it finds the parts of a line, which are unique. -/
theorem reads_iff {line : Text} {p : Header} : Reads line p ↔ parse line = p := by
  constructor
  · exact Reads.parse_eq
  · rintro rfl
    exact reads_parse line

/-! ## Nothing is lost -/

/-- The parts of a header in their order, with the marks that set them off. -/
def toText (p : Header) : Text :=
  p.type.getD [] ++ bracketed p.scope ++ (if p.hasColon then [':'] else []) ++ p.subject.getD []

theorem SeparatorAt.ink_eq {rest r : Text} {hasColon : Bool} (h : SeparatorAt rest hasColon r) :
    ink rest = (if hasColon then [':'] else []) ++ ink r := by
  cases h with
  | colon hGap =>
      rw [ink_append, (ink_eq_nil_iff _).2 hGap, ink_colon]
      rfl
  | missing => rfl

/-- **All of a line is accounted for**: its parts are the line without some of its
blank characters. -/
theorem Reads.ink_toText {line : Text} {p : Header} (h : Reads line p) :
    ink p.toText = ink line := by
  cases h with
  | untyped => simp [toText, bracketed, getD_nonempty?, ink_trim]
  | typed hNe hLetters hMaximal hScope hSeparator =>
      rename_i type after rest r scope hasColon
      have hMark : ink (if hasColon then [':'] else []) = if hasColon then [':'] else [] := by
        cases hasColon <;> decide
      simp only [toText, ink_append, Option.getD_some, hScope.eq_append, hSeparator.ink_eq, hMark,
        getD_nonempty?, ink_trim, List.append_assoc]

/-! ## Writing a header -/

/-- A header in its usual form has the parts it is written from. -/
theorem reads_write {type subject : Text} {scope : Option Text} (hNe : type ≠ [])
    (hLetters : ∀ c ∈ type, isLetter c = true) (hScope : ∀ s ∈ scope, ')' ∉ s)
    (hSubject : subject ≠ []) (hTrim : trim subject = subject) :
    Reads (write type scope subject) ⟨some type, scope, true, some subject⟩ := by
  have hMaximal : ∀ c ∈ (bracketed scope ++ ':' :: ' ' :: subject).head?, isLetter c = false := by
    cases scope with
    | none => simp [bracketed]; decide
    | some s => simp [bracketed]; decide
  have hScopeAt : ScopeAt (bracketed scope ++ ':' :: ' ' :: subject) scope
      (':' :: ' ' :: subject) := by
    cases scope with
    | none => exact .absent (by simp [bracketed])
    | some s =>
        rw [bracketed, List.append_assoc, List.singleton_append]
        exact .present (hScope s rfl)
  have hSeparator : SeparatorAt ([] ++ ':' :: ' ' :: subject) true (' ' :: subject) := .colon rfl
  have hRest : nonempty? (trim (' ' :: subject)) = some subject := by
    have hGap : trim ([' '] ++ subject) = trim subject := trim_blank_append (by decide) subject
    rw [← List.singleton_append, hGap, hTrim]
    exact nonempty?_eq_some_iff.2 ⟨rfl, hSubject⟩
  have hReads := Reads.typed hNe hLetters hMaximal hScopeAt hSeparator
  rwa [hRest, ← List.append_assoc] at hReads

theorem newline_not_mem_write {type subject : Text} {scope : Option Text}
    (hLetters : ∀ c ∈ type, isLetter c = true) (hScope : ∀ s ∈ scope, '\n' ∉ s)
    (hSubject : '\n' ∉ subject) : '\n' ∉ write type scope subject := by
  have hType : '\n' ∉ type := fun hMem => absurd (hLetters _ hMem) (by decide)
  cases scope with
  | none => simp [write, bracketed, hType, hSubject]
  | some s => simp [write, bracketed, hType, hSubject, hScope s rfl]

/-- Neither end of a header in its usual form is blank. -/
theorem ends_write {type subject : Text} (scope : Option Text) (hNe : type ≠ [])
    (hLetters : ∀ c ∈ type, isLetter c = true) (hSubject : subject ≠ [])
    (hTrim : trim subject = subject) :
    (∃ c ∈ (write type scope subject).head?, isBlank c = false) ∧
      trimEnd (write type scope subject) = write type scope subject := by
  constructor
  · obtain ⟨c, cs, rfl⟩ := List.exists_cons_of_ne_nil hNe
    exact ⟨c, rfl, isBlank_eq_false_of_isLetter (hLetters c (by simp))⟩
  · have hInk : blank subject = false := not_blank_of_trim_eq_self hTrim hSubject
    have hEnd : trimEnd subject = subject :=
      trimEnd_of_getLast ((trim_eq_self_iff subject).1 hTrim).2
    have hSplit : write type scope subject =
        (type ++ bracketed scope ++ [':', ' ']) ++ subject := by simp [write]
    rw [hSplit, trimEnd_append _ hInk, hEnd]

end Header

namespace Text

/-- A text is blank when all of its lines are. -/
theorem all_blank_lines (t : Text) : (lines t).all blank = blank t := by
  have hInk : ink t = (lines t).flatMap ink := by rw [← ink_unlines, unlines_lines]
  rw [Bool.eq_iff_iff, ← ink_eq_nil_iff, hInk, List.flatMap_eq_nil_iff, List.all_eq_true]
  simp only [ink_eq_nil_iff]

end Text

namespace Message

/--
**Reading is exact**: only a blank text cannot be read.  The lines of a message are
those of the trimmed text, its header is the first of them and begins with a
character that is not blank, and the parts of the header are the ones it has.  They
make up the header but for blank characters.
-/
theorem parse?_reads (t : Text) :
    (parse? t = none ↔ blank t = true) ∧
      ∀ m, parse? t = some m →
        unlines m.lines = trim t ∧ (∀ l ∈ m.lines, '\n' ∉ l) ∧
          m.lines.head? = some m.header ∧
          (∃ c ∈ m.header.head?, isBlank c = false) ∧
          (∀ p, Header.Reads m.header p ↔ m.parts = p) ∧
          ink m.parts.toText = ink m.header := by
  refine ⟨parse?_eq_none_iff t, ?_⟩
  intro m hParse
  obtain ⟨hInk, rfl⟩ := parse?_eq_some_iff.1 hParse
  exact ⟨unlines_lines _, fun l hl => newline_not_mem_of_mem_lines hl, firstLine_eq _,
    head?_header hInk, fun p => Header.reads_iff, (Header.reads_parse _).ink_toText⟩

/-- The scope ends at the first closing parenthesis, and the second colon belongs
to the subject. -/
theorem parse?_reads_second_colon :
    let t : Text := " feat(a(b)\t: :x) \n\nbody\n".toList
    ∃ m, parse? t = some m ∧ m.header = "feat(a(b)\t: :x) ".toList ∧
      unlines m.lines = trim t ∧
      Header.Reads m.header ⟨some "feat".toList, some "a(b".toList, true, some ":x)".toList⟩ := by
  intro t
  have hParse : parse? t = some (reading t) := parse?_eq_reading (by decide)
  obtain ⟨hLines, -, -, -, hParts, -⟩ := (parse?_reads t).2 _ hParse
  exact ⟨_, hParse, by decide, hLines, (hParts _).2 (by decide)⟩

/-! ## Reading what was written -/

/-- What stands below an empty line is the body. -/
theorem bodyOf_below_empty (header : Text) {b : Text} (hNe : b ≠ []) (hTrim : trim b = b) :
    bodyOf (header :: [] :: Text.lines b) = some b := by
  have hAll : (Text.lines b).all blank = false := by
    rw [all_blank_lines]
    exact not_blank_of_trim_eq_self hTrim hNe
  obtain ⟨l, hl, hInk⟩ := List.all_eq_false.1 hAll
  have hBody : bodyOf (header :: ([] ++ [] :: Text.lines b)) =
      some (trim (unlines (Text.lines b))) :=
    bodyOf_append header (by simp) rfl ⟨l, hl, by simpa using hInk⟩
  rwa [List.nil_append, unlines_lines, hTrim] at hBody

/-- The lines of a message in its usual form: below the header there is nothing, or
an empty line and the lines of the body. -/
theorem exists_lines_write (header : Text) {body : Option Text}
    (hBody : ∀ b ∈ body, b ≠ [] ∧ trim b = b) :
    ∃ below, write header body = unlines (header :: below) ∧ (∀ l ∈ below, '\n' ∉ l) ∧
      (below ≠ [] → ∃ l ∈ below.getLast?, ∃ c ∈ l.getLast?, isBlank c = false) ∧
      bodyOf (header :: below) = body := by
  cases body with
  | none => exact ⟨[], by simp [write], by simp, by simp, rfl⟩
  | some b =>
      obtain ⟨hNe, hTrim⟩ := hBody b rfl
      have hInk : blank b = false := not_blank_of_trim_eq_self hTrim hNe
      refine ⟨[] :: Text.lines b, ?_, ?_, ?_, bodyOf_below_empty header hNe hTrim⟩
      · rw [unlines_cons_cons, unlines_cons [] (lines_ne_nil b), unlines_lines, List.nil_append]
        rfl
      · intro l hl
        rcases List.mem_cons.1 hl with rfl | hl
        · simp
        · exact newline_not_mem_of_mem_lines hl
      · intro _
        have hTidy := tidy_lines_trim hInk
        rw [hTrim] at hTidy
        obtain ⟨l, hl, hEnd⟩ := hTidy.lastInk
        refine ⟨l, ?_, hEnd⟩
        rw [List.getLast?_cons, Option.mem_def.1 hl]
        rfl

/-- A header that is a line by itself, and a body, are read back from where they are
written, whatever blank characters stand around them. -/
theorem exists_parse?_write {header before after : Text} {body : Option Text}
    (hFeed : '\n' ∉ header) (hHead : ∃ c ∈ header.head?, isBlank c = false)
    (hEnd : trimEnd header = header) (hBody : ∀ b ∈ body, b ≠ [] ∧ trim b = b)
    (hBefore : blank before = true) (hAfter : blank after = true) :
    ∃ m, parse? (before ++ write header body ++ after) = some m ∧ m.header = header ∧
      m.parts = Header.parse header ∧ m.body = body := by
  obtain ⟨below, hWrite, hBelow, hLast, hBodyOf⟩ := exists_lines_write header hBody
  have hLines : Text.lines (trim (write header body)) = header :: below := by
    rw [hWrite, lines_trim_unlines (List.forall_mem_cons.2 ⟨hFeed, hBelow⟩) hHead hLast, hEnd,
      ite_self]
  have hTrim : trim (before ++ write header body ++ after) = trim (write header body) := by
    rw [trim_append_blank _ hAfter, trim_blank_append hBefore]
  have hInk : blank (before ++ write header body ++ after) = false := by
    obtain ⟨c, hc, hInk⟩ := hHead
    have hMem : c ∈ write header body := by
      rw [hWrite]
      exact List.mem_of_mem_head? (mem_head?_unlines hc below)
    exact not_blank_of_mem (by simp [hMem]) hInk
  refine ⟨_, parse?_of_not_blank hInk, ?_, ?_, ?_⟩
  · rw [hTrim, firstLine_of_lines hLines]
  · rw [hTrim, firstLine_of_lines hLines]
  · rw [hTrim, hLines]
    exact hBodyOf

/--
**Reading undoes writing**: a type, perhaps a scope, a subject and perhaps a body,
written in the usual form, are what is read off the text, whatever blank characters
stand around it.  The scope must not hold what ends it; the subject and the body are
trimmed and not empty.
-/
theorem parse?_write {type subject before after : Text} {scope body : Option Text}
    (hNe : type ≠ []) (hLetters : ∀ c ∈ type, isLetter c = true)
    (hScope : ∀ s ∈ scope, ')' ∉ s ∧ '\n' ∉ s)
    (hSubject : subject ≠ [] ∧ trim subject = subject ∧ '\n' ∉ subject)
    (hBody : ∀ b ∈ body, b ≠ [] ∧ trim b = b)
    (hBefore : blank before = true) (hAfter : blank after = true) :
    ∃ m, parse? (before ++ write (Header.write type scope subject) body ++ after) = some m ∧
      m.header = Header.write type scope subject ∧
      m.parts = ⟨some type, scope, true, some subject⟩ ∧ m.body = body := by
  obtain ⟨hSubjectNe, hTrim, hSubjectFeed⟩ := hSubject
  have hFeed := Header.newline_not_mem_write hLetters (fun s hs => (hScope s hs).2) hSubjectFeed
  obtain ⟨hHead, hEnd⟩ := Header.ends_write scope hNe hLetters hSubjectNe hTrim
  have hReads := Header.reads_write hNe hLetters (fun s hs => (hScope s hs).1) hSubjectNe hTrim
  rw [← hReads.parse_eq]
  exact exists_parse?_write hFeed hHead hEnd hBody hBefore hAfter

/-- A scope and a subject that look like other parts, and a body in two paragraphs
that looks like a message. -/
theorem parse?_write_lookalikes :
    let scope : Option Text := some "a (b: c".toList
    let subject : Text := ":(x): y".toList
    let body : Option Text := some "feat: one\n\n two".toList
    blank "\n\t".toList = true ∧
      ∃ m, parse? ("\n\t".toList ++ write (Header.write "FEAT".toList scope subject) body ++
          " \n\n".toList) = some m ∧
        m.header = Header.write "FEAT".toList scope subject ∧
        m.parts = ⟨some "FEAT".toList, scope, true, some subject⟩ ∧ m.body = body := by
  intro scope subject body
  have hLetters : ∀ c ∈ "FEAT".toList, isLetter c = true :=
    List.all_eq_true.1 (by decide)
  exact ⟨by decide, parse?_write (by decide) hLetters (by decide) (by decide) (by decide)
    (by decide) (by decide)⟩

end Message

end CommitLint
