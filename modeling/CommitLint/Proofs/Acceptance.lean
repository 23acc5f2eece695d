import CommitLint.Standard
import CommitLint.Proofs.IssueList

/-!
# Texts without issues and texts that pass

Nine rules together come to one grammar.  A strict reading minds every issue,
a lenient one minds errors only; for each rule the file says when it finds
nothing that is minded, and `spelled_iff` says that the five conditions on the
parts of a header hold exactly for the lines that have a proper spelling.  The
scan of the header is greedy and the spelling is not: that they agree rests on
`Spelling.Proper.sealed`, since the gap or the colon after the type and the
scope can belong to neither of them.

Main results: `forall_lint_iff_accepts`, `verdict_iff`.
-/

namespace CommitLint

open Text

/-! ## Spellings -/

theorem Scope.mem_of_accepts {e : Expect} {t : Text} (h : accepts e t = true) {c : Char}
    (hMem : c ∈ t) : isGroupChar c = true ∨ isSeparator c = true ∨ c = ' ' := by
  fun_induction accepts e t with
  | case1 => simp at hMem
  | case2 => simp at h
  | case3 d ds ih =>
      rw [Bool.and_eq_true] at h
      rcases List.mem_cons.1 hMem with rfl | hMem
      · exact Or.inl h.1
      · exact ih h.2 hMem
  | case4 d ds ih =>
      rw [Bool.and_eq_true] at h
      rcases List.mem_cons.1 hMem with rfl | hMem
      · exact Or.inr (Or.inl h.1)
      · exact ih h.2 hMem
  | case5 d ds hGroup ih =>
      rcases List.mem_cons.1 hMem with rfl | hMem
      · exact Or.inl hGroup
      · exact ih h hMem
  | case6 d ds hGroup hSep ih =>
      rcases List.mem_cons.1 hMem with rfl | hMem
      · exact Or.inr (Or.inl hSep)
      · exact ih h hMem
  | case7 d ds hGroup hSep ih =>
      rw [Bool.and_eq_true, beq_iff_eq] at h
      rcases List.mem_cons.1 hMem with rfl | hMem
      · exact Or.inr (Or.inr h.1)
      · exact ih h.2 hMem

theorem Scope.closing_not_mem {t : Text} (h : t = [] ∨ wellFormed t = true) : ')' ∉ t := by
  rcases h with rfl | h
  · simp
  · intro hMem
    have hClass := mem_of_accepts h hMem
    exact absurd hClass (by decide)

namespace Spelling

/-- The opening that reading a spelled line comes upon. -/
def opening (s : Spelling) : Header.Opening :=
  ⟨s.kind.name, s.scope, s.before ++ ':' :: (s.after ++ s.rest)⟩

theorem toText_opening (s : Spelling) : s.opening.toText = s.toText := by
  simp [Header.Opening.toText, opening, toText]

/-- Neither the gap nor the colon could be part of the type or the scope. -/
theorem Proper.sealed {s : Spelling} (h : s.Proper) : s.opening.Sealed := by
  have hHead : ∀ c ∈ s.opening.rest.head?, isBlank c = true ∨ c = ':' := by
    intro c hc
    cases hGap : s.before with
    | nil =>
        right
        simpa [opening, hGap] using hc.symm
    | cons d ds =>
        left
        have hcd : c = d := by simpa [opening, hGap] using hc.symm
        exact blank_of_mem h.before_blank (by simp [hGap, hcd])
  refine
    { type_ne_nil := s.kind.name_ne_nil
      letters := fun c hc => CommitType.isLetter_of_mem_name hc
      scope_closed := fun t ht => Scope.closing_not_mem (h.scope_formed t ht)
      rest_head := ?_
      rest_scope := ?_ }
  · intro _ c hc
    rcases hHead c hc with hBlank | rfl
    · exact Header.isLetter_eq_false_of_isBlank hBlank
    · decide
  · intro _
    rw [Header.scope?_eq_none_iff]
    intro r hr
    have hParen := hHead '(' (by simp [hr])
    exact absurd hParen (by decide)

theorem Proper.parse {s : Spelling} (h : s.Proper) :
    Header.parse s.toText = ⟨some s.kind.name, s.scope, true, some (trim s.rest)⟩ := by
  have hRead := h.sealed.opening?
  rw [toText_opening] at hRead
  have hSubject : nonempty? (trim (s.after ++ s.rest)) = some (trim s.rest) := by
    rw [trim_blank_append h.after_blank, nonempty?_eq_some_iff]
    exact ⟨rfl, (trim_ne_nil_iff _).2 h.rest_not_blank⟩
  rw [Header.parse_of_opening hRead]
  simp only [opening, Header.separated_of_colon h.before_blank, hSubject]

end Spelling

/-- A line has a proper spelling exactly when its reading has a known type, a
scope that is empty or well formed, a colon and a subject. -/
theorem spelled_iff (line : Text) (allowsPeriod : Bool) :
    (∃ s : Spelling, s.Proper ∧ s.toText = line ∧
        (allowsPeriod = true ∨ ¬ s.EndsWithPeriod)) ↔
      (∃ k : CommitType, (Header.parse line).type = some k.name) ∧
        (∀ t ∈ (Header.parse line).scope, t = [] ∨ Scope.wellFormed t = true) ∧
        (Header.parse line).hasColon = true ∧
        ∃ u, (Header.parse line).subject = some u ∧
          (allowsPeriod = true ∨ u.getLast? ≠ some '.') := by
  constructor
  · rintro ⟨s, hProper, rfl, hPeriod⟩
    rw [hProper.parse]
    refine ⟨⟨s.kind, rfl⟩, hProper.scope_formed, rfl, trim s.rest, rfl, ?_⟩
    rw [getLast?_trim]
    exact hPeriod
  · rintro ⟨⟨k, hType⟩, hScope, hColon, u, hSubject, hPeriod⟩
    cases hOpening : Header.opening? line with
    | none =>
        rw [Header.parse_of_no_opening hOpening] at hType
        simp at hType
    | some o =>
        obtain ⟨-, hLine⟩ := Header.opening?_eq_some_iff.1 hOpening
        rw [Header.parse_of_opening hOpening] at hType hScope hColon hSubject
        rcases Header.separated_cases o.rest with ⟨gap, rest, hGap, hRest⟩ | hNone
        · rw [hRest, Header.separated_of_colon hGap, nonempty?_eq_some_iff] at hSubject
          obtain ⟨rfl, hNe⟩ := hSubject
          have hInk : blank rest = false := (trim_ne_nil_iff rest).1 hNe
          refine ⟨⟨k, o.scope, gap, [], rest⟩, ?_, ?_, ?_⟩
          · exact
              { before_blank := hGap
                after_blank := rfl
                rest_not_blank := hInk
                scope_formed := hScope }
          · have hName : o.type = k.name := by simpa using hType
            simp [Spelling.toText, hLine, Header.Opening.toText, hName, hRest]
          · rw [getLast?_trim] at hPeriod
            exact hPeriod
        · rw [Header.separated_of_no_colon hNone] at hColon
          simp at hColon

/-! ## What is minded -/

/-- The issues that are minded: all of them, or errors only. -/
def Issue.minded (strict : Bool) (i : Issue) : Bool := strict || i.isError

theorem Issue.minded_error (strict : Bool) (r : Rule) (message : Text) (f : Option Fix) :
    (Issue.mk r .error message f).minded strict = true := by
  cases strict <;> rfl

theorem Issue.minded_warning (strict : Bool) (r : Rule) (message : Text) (f : Option Fix) :
    (Issue.mk r .warning message f).minded strict = strict := by
  cases strict <;> rfl

/-- The standard that goes with minding all issues, or errors only. -/
def Standard.ofStrict (strict : Bool) : Standard :=
  if strict then Standard.clean else Standard.passing

namespace Rule

/-- A rule finds nothing that is minded. -/
def Content (strict : Bool) (m : Message) (r : Rule) : Prop :=
  ∀ i ∈ r.check m, i.minded strict = false

/-- Who minds all issues wants none. -/
theorem content_true_iff (m : Message) (r : Rule) : Content true m r ↔ r.check m = [] := by
  rw [Content, List.eq_nil_iff_forall_not_mem]
  constructor
  · intro h i hi
    have hMinded := h i hi
    contradiction
  · intro h i hi
    exact absurd hi (h i)

theorem forall_mem_ite {c : Prop} [Decidable c] {i : Issue} {p : Issue → Prop} :
    (∀ x ∈ (if c then [i] else []), p x) ↔ (c → p i) := by
  by_cases hc : c <;> simp [hc]

variable (strict : Bool) (m : Message)

theorem content_headerPresent : Content strict m .headerPresent ↔ blank m.header = false := by
  show (∀ i ∈ checkHeaderPresent m, i.minded strict = false) ↔ _
  unfold checkHeaderPresent
  rw [forall_mem_ite, Issue.minded_error]
  simp

theorem content_knownType :
    Content strict m .knownType ↔ ∃ k : CommitType, m.parts.type = some k.name := by
  show (∀ i ∈ checkKnownType m, i.minded strict = false) ↔ _
  unfold checkKnownType
  split
  · rename_i hType
    rw [List.forall_mem_singleton, Issue.minded_error, hType]
    simp
  · rename_i t hType
    split
    · rename_i hName
      obtain ⟨k, hk⟩ := Option.isSome_iff_exists.1 hName
      have hEq := CommitType.ofName?_eq_some_iff.1 hk
      constructor
      · intro _
        exact ⟨k, by rw [hType, hEq]⟩
      · intro _ i hi
        simp at hi
    · rename_i hName
      have hNo : ¬ ∃ k : CommitType, m.parts.type = some k.name := by
        rintro ⟨k, hk⟩
        rw [hType, Option.some_inj] at hk
        rw [hk, CommitType.ofName?_name] at hName
        simp at hName
      split
      · rw [List.forall_mem_singleton, Issue.minded_error]
        simpa using hNo
      · rw [List.forall_mem_singleton, Issue.minded_error]
        simpa using hNo

theorem content_scopeFormat :
    Content strict m .scopeFormat ↔
      ∀ t ∈ m.parts.scope, t = [] ∨ Scope.wellFormed t = true := by
  show (∀ i ∈ checkScopeFormat m, i.minded strict = false) ↔ _
  unfold checkScopeFormat
  split
  · rename_i hScope
    simp [hScope]
  · rename_i t hScope
    split
    · rename_i hFormed
      simpa [hScope] using hFormed
    · rename_i hFormed
      rw [List.forall_mem_singleton, Issue.minded_error]
      simpa [hScope] using hFormed

theorem content_colonPresent :
    Content strict m .colonPresent ↔ m.parts.type.isSome = true → m.parts.hasColon = true := by
  show (∀ i ∈ checkColonPresent m, i.minded strict = false) ↔ _
  unfold checkColonPresent
  rw [forall_mem_ite, Issue.minded_error]
  simp

theorem content_subjectPresent :
    Content strict m .subjectPresent ↔
      m.parts.type.isSome = true → m.parts.hasColon = true → lacksSubject m = false := by
  show (∀ i ∈ checkSubjectPresent m, i.minded strict = false) ↔ _
  unfold checkSubjectPresent
  rw [forall_mem_ite, Issue.minded_error]
  simp

theorem content_noFinalPeriod :
    Content strict m .noFinalPeriod ↔
      (Standard.ofStrict strict).allowsPeriod = true ∨
        (m.parts.subject.getD []).getLast? ≠ some '.' := by
  show (∀ i ∈ checkNoFinalPeriod m, i.minded strict = false) ↔ _
  unfold checkNoFinalPeriod
  rw [forall_mem_ite, Issue.minded_warning]
  cases strict <;> simp [Standard.ofStrict, Standard.clean, Standard.passing]

theorem content_headerLength :
    Content strict m .headerLength ↔
      m.header.length ≤ (Standard.ofStrict strict).headerMax := by
  show (∀ i ∈ checkHeaderLength m, i.minded strict = false) ↔ _
  unfold checkHeaderLength
  dsimp only
  by_cases hError : m.header.length > headerMax
  · rw [if_pos hError, List.forall_mem_singleton, Issue.minded_error]
    have hWarn : headerWarn < m.header.length := Nat.lt_trans (by decide) hError
    cases strict <;> simp [Standard.ofStrict, Standard.clean, Standard.passing, hWarn, hError]
  · rw [if_neg hError, forall_mem_ite, Issue.minded_warning]
    have hShort : m.header.length ≤ headerMax := Nat.le_of_not_lt hError
    cases strict <;> simp [Standard.ofStrict, Standard.clean, Standard.passing, hShort]

theorem content_blankLine :
    Content strict m .blankLine ↔ Message.crowdsHeader m.lines = false := by
  show (∀ i ∈ checkBlankLine m, i.minded strict = false) ↔ _
  unfold checkBlankLine
  rw [forall_mem_ite, Issue.minded_error]
  simp

theorem minded_longLine? (index : Nat) (l : Text) :
    (∀ i ∈ (longLine? index l).toList, i.minded strict = false) ↔
      l.length ≤ (Standard.ofStrict strict).lineMax := by
  unfold longLine?
  dsimp only
  by_cases hError : l.length > lineMax
  · have hWarn : lineWarn < l.length := Nat.lt_trans (by decide) hError
    rw [if_pos hError, Option.toList_some, List.forall_mem_singleton, longLine,
      Issue.minded_error]
    cases strict <;> simp [Standard.ofStrict, Standard.clean, Standard.passing, hWarn, hError]
  · have hShort : l.length ≤ lineMax := Nat.le_of_not_lt hError
    rw [if_neg hError]
    by_cases hWarn : l.length > lineWarn
    · rw [if_pos hWarn, Option.toList_some, List.forall_mem_singleton, longLine,
        Issue.minded_warning]
      cases strict <;> simp [Standard.ofStrict, Standard.clean, Standard.passing, hWarn, hShort]
    · have hShorter : l.length ≤ lineWarn := Nat.le_of_not_lt hWarn
      rw [if_neg hWarn]
      cases strict <;>
        simp [Standard.ofStrict, Standard.clean, Standard.passing, hShort, hShorter]

theorem minded_longLines (ls : List Text) :
    ∀ first, (∀ i ∈ longLines first ls, i.minded strict = false) ↔
      ∀ l ∈ ls, l.length ≤ (Standard.ofStrict strict).lineMax := by
  induction ls with
  | nil => simp [longLines]
  | cons l ls ih =>
      intro first
      rw [longLines, List.forall_mem_append, minded_longLine?, ih (first + 1),
        List.forall_mem_cons]

theorem content_lineLength :
    Content strict m .lineLength ↔
      ∀ l ∈ m.lines, l.length ≤ (Standard.ofStrict strict).lineMax :=
  minded_longLines strict m.lines 0

end Rule

/-! ## The two standards -/

theorem forall_issues_iff (strict : Bool) (m : Message) :
    (∀ i ∈ m.issues, i.minded strict = false) ↔ ∀ r : Rule, r.Content strict m := by
  constructor
  · intro h r i hi
    exact h i (Message.mem_issues.2 ⟨r, hi⟩)
  · intro h i hi
    obtain ⟨r, hr⟩ := Message.mem_issues.1 hi
    exact h r i hr

theorem crowdsHeader_eq_false_iff (header : Text) (rest : List Text) :
    Message.crowdsHeader (header :: rest) = false ↔ ∀ l ∈ rest.head?, blank l = true := by
  cases rest <;> simp [Message.crowdsHeader]

/-- Nothing that is found is minded exactly when the lines come up to the
standard. -/
theorem forall_issues_iff_holds (strict : Bool) {t : Text} (hInk : blank t = false)
    {rest : List Text} (hLines : lines (trim t) = firstLine (trim t) :: rest) :
    (∀ i ∈ (Message.reading t).issues, i.minded strict = false) ↔
      (Standard.ofStrict strict).Holds (firstLine (trim t)) rest := by
  have hHeader : blank (firstLine (trim t)) = false := by
    obtain ⟨c, hc, hcInk⟩ := Message.head?_header hInk
    exact not_blank_of_mem (List.mem_of_mem_head? hc) hcInk
  have hSpelled := spelled_iff (firstLine (trim t)) (Standard.ofStrict strict).allowsPeriod
  rw [forall_issues_iff]
  constructor
  · intro h
    obtain ⟨k, hType⟩ := (Rule.content_knownType strict _).1 (h .knownType)
    have hScope := (Rule.content_scopeFormat strict _).1 (h .scopeFormat)
    have hColon := (Rule.content_colonPresent strict _).1 (h .colonPresent) (by simp [hType])
    have hSubject := (Rule.content_subjectPresent strict _).1 (h .subjectPresent)
      (by simp [hType]) hColon
    have hPeriod := (Rule.content_noFinalPeriod strict _).1 (h .noFinalPeriod)
    have hCrowd := (Rule.content_blankLine strict _).1 (h .blankLine)
    have hLength := (Rule.content_lineLength strict _).1 (h .lineLength)
    simp only [Message.reading, Rule.lacksSubject, hLines] at hType hScope hColon hSubject
    simp only [Message.reading, hLines] at hPeriod hCrowd hLength
    refine
      { spelled := hSpelled.2 ⟨⟨k, hType⟩, hScope, hColon, ?_⟩
        header_short := (Rule.content_headerLength strict _).1 (h .headerLength)
        body_apart := (crowdsHeader_eq_false_iff _ rest).1 hCrowd
        lines_short := hLength }
    cases hOpt : (Header.parse (firstLine (trim t))).subject with
    | none => simp [hOpt] at hSubject
    | some u =>
        rw [hOpt] at hPeriod
        exact ⟨u, rfl, hPeriod⟩
  · intro h r
    obtain ⟨⟨k, hType⟩, hScope, hColon, u, hSubject, hPeriod⟩ := hSpelled.1 h.spelled
    cases r with
    | headerPresent => exact (Rule.content_headerPresent strict _).2 hHeader
    | knownType => exact (Rule.content_knownType strict _).2 ⟨k, hType⟩
    | scopeFormat => exact (Rule.content_scopeFormat strict _).2 hScope
    | colonPresent => exact (Rule.content_colonPresent strict _).2 fun _ => hColon
    | subjectPresent =>
        refine (Rule.content_subjectPresent strict _).2 fun _ _ => ?_
        have hNe : u ≠ [] := (Header.subject_eq_some hSubject).1
        simpa [Rule.lacksSubject, Message.reading, hSubject] using hNe
    | noFinalPeriod =>
        refine (Rule.content_noFinalPeriod strict _).2 ?_
        simpa [Message.reading, hSubject] using hPeriod
    | headerLength => exact (Rule.content_headerLength strict _).2 h.header_short
    | blankLine =>
        refine (Rule.content_blankLine strict _).2 ?_
        simp only [Message.reading, hLines]
        exact (crowdsHeader_eq_false_iff _ rest).2 h.body_apart
    | lineLength =>
        refine (Rule.content_lineLength strict _).2 ?_
        simp only [Message.reading, hLines]
        exact h.lines_short

theorem forall_lint_iff_accepts (strict : Bool) (t : Text) :
    (∀ i ∈ lint t, i.minded strict = false) ↔ (Standard.ofStrict strict).Accepts t := by
  cases hBlank : blank t with
  | true =>
      have hNil : trim t = [] := trim_of_blank hBlank
      simp [lint_of_blank hBlank, Issue.minded, Issue.isError, Standard.Accepts, hNil]
  | false =>
      obtain ⟨rest, hLines⟩ := lines_eq_cons (trim t)
      rw [lint_eq_issues hBlank, forall_issues_iff_holds strict hBlank hLines]
      constructor
      · intro h
        exact ⟨(trim_ne_nil_iff t).2 hBlank, firstLine (trim t), rest, hLines, h⟩
      · rintro ⟨-, header, rest', hLines', h⟩
        rw [hLines] at hLines'
        obtain ⟨rfl, rfl⟩ := List.cons.inj hLines'
        exact h

theorem verdict_iff (t : Text) : (verdict t).1 = true ↔ ∀ i ∈ lint t, i.isError = false := by
  unfold verdict firstError?
  cases hFind : (lint t).find? Issue.isError with
  | none =>
      rw [List.find?_eq_none] at hFind
      simpa using hFind
  | some i =>
      have hError := List.find?_some hFind
      have hMem := List.mem_of_find?_eq_some hFind
      simp only [Option.map_some, Bool.false_eq_true, false_iff]
      intro h
      rw [h i hMem] at hError
      contradiction

/--
**Acceptance grammar**: a text has no issues exactly when it comes up to the
clean standard, and it passes exactly when it comes up to the passing one.
-/
theorem lint_and_verdict_iff_accepts (t : Text) :
    (lint t = [] ↔ Standard.clean.Accepts t) ∧
      ((verdict t).1 = true ↔ Standard.passing.Accepts t) := by
  have hStrict := forall_lint_iff_accepts true t
  have hLenient := forall_lint_iff_accepts false t
  constructor
  · rw [show Standard.clean = Standard.ofStrict true from rfl, ← hStrict,
      List.eq_nil_iff_forall_not_mem]
    simp [Issue.minded]
  · rw [show Standard.passing = Standard.ofStrict false from rfl, ← hLenient, verdict_iff]
    simp [Issue.minded]

end CommitLint
