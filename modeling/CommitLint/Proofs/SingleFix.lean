import CommitLint.Proofs.KnownType
import CommitLint.Proofs.LongLines
import CommitLint.Proofs.Padding
import CommitLint.Proofs.Selections
import Mathlib.Data.List.Forall2

/-!
# What one repair does to the other issues

A session that repairs one issue lints the whole text again.  If the repair works
on the structure of the message, and not on the width of its lines, the other
issues come out as they were.

`Rule.Agrees` lists what each rule looks at.  A rule finds the same in two
messages that agree in that (`Rule.check_of_agrees`), so for each repair it is
enough to say which rules can see it:

* the type in lower case is seen by R2 only (`agrees_lowercaseHead`);
* an empty line below the header is seen by R8, and by R9, which counts the lines
  (`agrees_separateBody`);
* a colon is seen by R4 and R5, and by R7 and R9, which measure the header
  (`agrees_addColon`).

Main result: `applyIssue_structural`.
-/

namespace CommitLint

open Text

/-! ## What a rule looks at -/

namespace Rule

/-- Two messages agree in what a rule looks at. -/
def Agrees : Rule → Message → Message → Prop
  | headerPresent, m, m' => blank m'.header = blank m.header
  | knownType, m, m' => m'.parts.type = m.parts.type
  | scopeFormat, m, m' => m'.parts.scope = m.parts.scope
  | colonPresent, m, m' =>
    m'.parts.type.isSome = m.parts.type.isSome ∧ m'.parts.hasColon = m.parts.hasColon
  | subjectPresent, m, m' =>
    m'.parts.type.isSome = m.parts.type.isSome ∧ m'.parts.hasColon = m.parts.hasColon ∧
      m'.parts.subject = m.parts.subject
  | noFinalPeriod, m, m' => m'.parts.subject = m.parts.subject
  | headerLength, m, m' => m'.header.length = m.header.length
  | blankLine, m, m' => Message.crowdsHeader m'.lines = Message.crowdsHeader m.lines
  | lineLength, m, m' => m'.lines.map List.length = m.lines.map List.length

/-- Of lines R9 sees nothing but their lengths. -/
theorem longLines_of_lengths {ls ls' : List Text} (h : ls'.map List.length = ls.map List.length)
    (first : Nat) : longLines first ls' = longLines first ls := by
  induction ls generalizing ls' first with
  | nil =>
      have hNone : ls' = [] := by simpa using h
      rw [hNone]
  | cons l ls ih =>
      cases ls' with
      | nil => simp at h
      | cons l' ls' =>
          rw [List.map_cons, List.map_cons, List.cons.injEq] at h
          rw [longLines, longLines, ih h.2, longLine?, longLine?, h.1]

/-- **A rule finds what it looks at**: in messages that agree in that it finds the
same. -/
theorem check_of_agrees {r : Rule} {m m' : Message} (h : r.Agrees m m') :
    r.check m' = r.check m := by
  cases r with
  | headerPresent => rw [check, checkHeaderPresent, show blank m'.header = _ from h]; rfl
  | knownType => rw [check, checkKnownType, show m'.parts.type = _ from h]; rfl
  | scopeFormat => rw [check, checkScopeFormat, show m'.parts.scope = _ from h]; rfl
  | colonPresent => rw [check, checkColonPresent, h.1, h.2]; rfl
  | subjectPresent => rw [check, checkSubjectPresent, lacksSubject, h.1, h.2.1, h.2.2]; rfl
  | noFinalPeriod => rw [check, checkNoFinalPeriod, show m'.parts.subject = _ from h]; rfl
  | headerLength => rw [check, checkHeaderLength, show m'.header.length = _ from h]; rfl
  | blankLine => rw [check, checkBlankLine, show Message.crowdsHeader m'.lines = _ from h]; rfl
  | lineLength => exact longLines_of_lengths h 0

/-- Only R9 counts lines. -/
theorem lineIndex?_of_mem_check {r : Rule} (hr : r ≠ .lineLength) {m : Message} {i : Issue}
    (h : i ∈ r.check m) : i.lineIndex? = none := by
  refine bind_fix_eq_none (r := .lineLength) (fun f hIndex => ?_) hr h
  cases f with
  | wrapLine k => rfl
  | trimEnds | lowercaseType _ | insertColon | dropPeriod | insertBlankLine | choose _ =>
      cases hIndex

end Rule

/-! ## One issue less -/

/-- If one rule found an issue and no other rule did, erasing the issue is the same
as leaving the rule out. -/
theorem erase_flatMap {found : Rule → List Issue} {r : Rule} {i : Issue} {rules : List Rule}
    (hOwn : found r = [i]) (hOthers : ∀ q, q ≠ r → i ∉ found q) (hNodup : rules.Nodup) :
    (rules.flatMap found).erase i = rules.flatMap fun q => if q = r then [] else found q := by
  induction rules with
  | nil => rfl
  | cons q qs ih =>
      obtain ⟨hNew, hRest⟩ := List.nodup_cons.1 hNodup
      rw [List.flatMap_cons, List.flatMap_cons]
      by_cases hEq : q = r
      · subst hEq
        rw [hOwn, if_pos rfl, List.singleton_append, List.erase_cons_head, List.nil_append]
        apply List.flatMap_congr
        intro p hp
        have hNe : p ≠ q := fun hSame => hNew (hSame ▸ hp)
        rw [if_neg hNe]
      · rw [if_neg hEq, List.erase_append_right _ (hOthers q hEq), ih hRest]

/-- An issue that is not about a long line is the only one of its rule. -/
theorem Message.erase_issues {m : Message} {i : Issue} (hi : i ∈ m.issues)
    (hShort : i.rule ≠ .lineLength) :
    m.issues.erase i = Rule.all.flatMap fun r => if r = i.rule then [] else r.check m := by
  have hCheck := mem_check_of_mem_issues hi
  have hOwn : i.rule.check m = [i] := by
    rcases Rule.check_eq_nil_or_singleton hShort m with hNone | ⟨j, hOne, -⟩
    · rw [hNone] at hCheck
      contradiction
    · rw [hOne, List.mem_singleton] at hCheck
      rw [hOne, hCheck]
  rw [issues_eq]
  apply erase_flatMap hOwn
  · intro r hr hMem
    exact hr (Rule.rule_of_mem_check hMem).symm
  · decide

/-! ## The type in lower case -/

/-- Lower case is as long, except for the dotted capital I. -/
theorem length_lowerAfter {w : Text} (hDotted : '\u0130' ∉ w) (before : Text) :
    (lowerAfter before w).length = w.length := by
  induction w generalizing before with
  | nil => rfl
  | cons c cs ih =>
      rw [List.mem_cons, not_or] at hDotted
      have hOne : (lowerAt before c cs).length = 1 := by
        rw [lowerAt, if_neg (Ne.symm hDotted.1)]
        split <;> rfl
      rw [lowerAfter, List.length_append, hOne, ih hDotted.2, List.length_cons, Nat.add_comm]

/-- Writing the type in lower case makes it known and is seen by R2 only. -/
theorem agrees_lowercaseHead {t found : Text} {k : CommitType} (hInk : blank t = false)
    (hType : (Message.reading t).parts.type = some found) (hLower : lower found = k.name) :
    let t' := Fix.lowercaseHead found (trim t)
    blank t' = false ∧ (Message.reading t').parts.type = some k.name ∧
      ∀ r : Rule, r ≠ .knownType → r.Agrees (Message.reading t) (Message.reading t') := by
  intro t'
  obtain ⟨o, rfl, -, hOpens⟩ := Message.exists_opens hType
  have hNew : Opens { o with type := k.name } (Message.reading t).lines.tail t' :=
    hOpens.lowercaseHead hLower
  have hInk' : blank t' = false := hNew.type_isNone_eq_false.1
  -- the type gives way to a word, so there is nothing to trim
  have hLines : lines (trim t') = Header.Opening.toText { o with type := k.name } ::
      (Message.reading t).lines.tail := by
    have hTidy := tidy_lines_trim hInk
    rw [hOpens.lines_eq, Header.Opening.toText, List.append_assoc] at hTidy
    have hName : ∀ c ∈ k.name, isBlank c = false := fun c hc =>
      Header.isBlank_eq_false_of_isLetter (CommitType.isLetter_of_mem_name hc)
    have hSame := (hTidy.replace_head hName k.name_ne_nil).lines_trim
    rw [← List.append_assoc] at hSame
    rw [hNew.text_eq]
    exact hSame
  have hOld := Message.reading_of_lines hOpens.lines_eq
  have hReading := Message.reading_of_lines hLines
  rw [Header.parse_of_opening hOpens.sealed.opening?] at hOld
  rw [Header.parse_of_opening hNew.sealed.opening?] at hReading
  have hLength : (Header.Opening.toText { o with type := k.name }).length = o.toText.length := by
    have hWord : k.name.length = o.type.length := by
      rw [← hLower]
      apply length_lowerAfter
      exact fun hMem => absurd (hOpens.sealed.letters _ hMem) (by decide)
    simp only [Header.Opening.toText, List.length_append, hWord]
  refine ⟨hInk', by rw [hReading], ?_⟩
  intro r hr
  cases r with
  | headerPresent =>
      exact (Message.blank_header hInk').trans (Message.blank_header hInk).symm
  | knownType => exact absurd rfl hr
  | scopeFormat => rw [Rule.Agrees, hReading, hOld]
  | colonPresent =>
      rw [Rule.Agrees, hReading, hOld]
      exact ⟨rfl, rfl⟩
  | subjectPresent =>
      rw [Rule.Agrees, hReading, hOld]
      exact ⟨rfl, rfl, rfl⟩
  | noFinalPeriod => rw [Rule.Agrees, hReading, hOld]
  | headerLength =>
      rw [Rule.Agrees, hReading, hOld]
      exact hLength
  | blankLine =>
      rw [Rule.Agrees, hReading, hOld]
      cases (Message.reading t).lines.tail <;> rfl
  | lineLength =>
      rw [Rule.Agrees, hReading, hOld, List.map_cons, List.map_cons, hLength]
      rfl

/-! ## An empty line below the header -/

/-- An empty line below the header is seen by R8 and R9 only. -/
theorem agrees_separateBody {t : Text} (hInk : blank t = false)
    (hCrowd : Message.crowdsHeader (Message.reading t).lines = true) :
    let m := Message.reading t
    let t' := Fix.separateBody (trim t)
    blank t' = false ∧ (Message.reading t').lines = m.header :: [] :: m.lines.tail ∧
      ∀ r : Rule, r ≠ .blankLine → r ≠ .lineLength → r.Agrees m (Message.reading t') := by
  intro m t'
  obtain ⟨header, l, rest, hCut, hLine⟩ := Message.exists_of_crowdsHeader hCrowd
  have hBelow : m.lines.tail = l :: rest := by rw [hCut, List.tail_cons]
  have hTidy := tidy_lines_trim hInk
  have hOld := Message.lines_trim t
  rw [hBelow] at hOld
  rw [hOld] at hTidy
  have hText : t' = unlines (m.header :: [] :: l :: rest) := by
    have hSplit := separateBody_unlines hTidy.noFeed hLine
    rwa [← hOld, unlines_lines] at hSplit
  have hLines : lines (trim t') = m.header :: [] :: l :: rest := by
    rw [hText]
    exact hTidy.insert_empty.lines_trim
  have hInk' : blank t' = false := by
    rw [blank_eq_of_ink_eq (ink_separateBody (trim t)), blank_trim]
    exact hInk
  have hReading := Message.reading_of_lines hLines
  have hParts : (Message.reading t').parts = m.parts := by rw [hReading]; rfl
  have hHeader : (Message.reading t').header = m.header := by rw [hReading]
  refine ⟨hInk', by rw [hReading, hBelow], ?_⟩
  intro r hr hShort
  cases r with
  | headerPresent => rw [Rule.Agrees, hHeader]
  | knownType => rw [Rule.Agrees, hParts]
  | scopeFormat => rw [Rule.Agrees, hParts]
  | colonPresent => rw [Rule.Agrees, hParts]; exact ⟨rfl, rfl⟩
  | subjectPresent => rw [Rule.Agrees, hParts]; exact ⟨rfl, rfl, rfl⟩
  | noFinalPeriod => rw [Rule.Agrees, hParts]
  | headerLength => rw [Rule.Agrees, hHeader]
  | blankLine => exact absurd rfl hr
  | lineLength => exact absurd rfl hShort

/-! ## A colon -/

/-- A colon is seen by R4 and R5, and by R7 and R9 as far as the header is longer. -/
theorem agrees_addColon {t : Text} (hInk : blank t = false)
    (hType : (Message.reading t).parts.type.isSome = true)
    (hColon : (Message.reading t).parts.hasColon = false) :
    let m := Message.reading t
    let t' := mapFirstLine Fix.addColon (trim t)
    blank t' = false ∧ (Message.reading t').parts = { m.parts with hasColon := true } ∧
      (Message.reading t').lines.tail = m.lines.tail ∧
      ∀ r : Rule, r ∉ [.colonPresent, .subjectPresent, .headerLength, .lineLength] →
        r.Agrees m (Message.reading t') := by
  intro m t'
  obtain ⟨s, hType⟩ := Option.isSome_iff_exists.1 hType
  obtain ⟨o, rfl, hHeader, hOpens⟩ := Message.exists_opens hType
  have hNew : Opens { o with rest := ':' :: ' ' :: trim o.rest } m.lines.tail t' :=
    hOpens.addColon
  have hInk' : blank t' = false := hNew.type_isNone_eq_false.1
  have hTidy := tidy_lines_trim hInk
  rw [Message.lines_trim] at hTidy
  obtain ⟨hParts, hBelow⟩ := hNew.reading hTidy.lastInk_below
  have hOld : m.parts = ⟨some o.type, o.scope, (Header.separated o.rest).1,
      (Header.separated o.rest).2⟩ := by
    rw [← Header.parse_of_opening hOpens.sealed.opening?, ← hHeader]
    rfl
  have hNone : (Header.separated o.rest).1 = false := by
    rw [← hColon]
    exact (congrArg Header.hasColon hOld).symm
  rw [Header.parse_of_opening hNew.sealed.opening?, Header.separated_addColon hNone] at hParts
  have hAll : (Message.reading t').parts = { m.parts with hasColon := true } := by
    rw [hParts, hOld]
  refine ⟨hInk', hAll, hBelow, ?_⟩
  intro r hr
  cases r with
  | headerPresent =>
      exact (Message.blank_header hInk').trans (Message.blank_header hInk).symm
  | knownType => rw [Rule.Agrees, hAll]
  | scopeFormat => rw [Rule.Agrees, hAll]
  | noFinalPeriod => rw [Rule.Agrees, hAll]
  | blankLine =>
      have hLines := Message.lines_trim t
      have hLines' := Message.lines_trim t'
      rw [hBelow] at hLines'
      show Message.crowdsHeader (lines (trim t')) = Message.crowdsHeader (lines (trim t))
      rw [hLines, hLines']
      cases m.lines.tail <;> rfl
  | colonPresent | subjectPresent | headerLength | lineLength => simp at hr

/-! ## Repairing one issue -/

/-- The issues of a message, found among those of another message whose header had
no colon; `m` is the message with the colon. -/
def Rule.afterColon (issues : List Issue) (m : Message) : Rule → List Issue
  | colonPresent => []
  | subjectPresent =>
    if m.parts.subject.isNone then
      [⟨subjectPresent, .error, "Subject must not be empty".toList, none⟩]
    else []
  | headerLength => checkHeaderLength m
  | lineLength =>
    (longLine? 0 m.header).toList ++ (reports issues .lineLength).filter (·.isBelow 0)
  | r => reports issues r

/-- An issue as it is when an empty line has been put below the header. -/
def Issue.SetOff (i j : Issue) : Prop := if i.isBelow 0 then i.Moved 1 j else j = i

/-- Issues that are not about a line below the header are the same then. -/
theorem forall₂_setOff_self {found : List Issue} (hAbove : ∀ i ∈ found, i.isBelow 0 = false) :
    List.Forall₂ Issue.SetOff found found := by
  apply List.forall₂_same.2
  intro i hi
  rw [Issue.SetOff, hAbove i hi, if_neg (by simp)]

/-- Those about long lines are the same for the header, and move for all other lines. -/
theorem forall₂_setOff_longLines (header : Text) (rest : List Text) :
    List.Forall₂ Issue.SetOff (Rule.longLines 0 (header :: rest))
      (Rule.longLines 0 (header :: [] :: rest)) := by
  have hHeader : ∀ i ∈ (Rule.longLine? 0 header).toList, i.isBelow 0 = false := by
    intro i hi
    have hFix := (Rule.of_mem_longLine? (Option.mem_toList.1 hi)).2
    rw [Issue.isBelow, Issue.lineIndex?, hFix]
    rfl
  have hBelow : ∀ i ∈ Rule.longLines 1 rest, i.isBelow 0 = true := by
    intro i hi
    obtain ⟨k, hIndex, hBound, -⟩ := Rule.lineIndex?_of_mem_longLines hi
    rw [Issue.isBelow, hIndex, Option.any_some, decide_eq_true_eq]
    omega
  have hMoved := Rule.forall₂_moved_longLines 1 1 rest
  rw [Rule.longLines, Rule.longLines, Rule.longLines]
  refine List.rel_append (forall₂_setOff_self hHeader)
    (((List.forall₂_and_left _ _).2 ⟨hBelow, hMoved⟩).imp ?_)
  rintro i j ⟨hUnder, hMove⟩
  rw [Issue.SetOff, if_pos hUnder]
  exact hMove

namespace Message

variable {t : Text} {i : Issue}

/-- The type in lower case settles its issue and leaves the others. -/
theorem lint_lowercaseType {found : Text} (hTrim : trim t = t) (hInk : blank t = false)
    (hi : i ∈ (reading t).issues) (hFix : i.fix = some (.lowercaseType found)) (c : Choices) :
    lint (i.repair c t) = (reading t).issues.erase i := by
  have hRule : i.rule = .knownType :=
    (Option.some.inj (Rule.rule?_of_mem_check (mem_check_of_mem_issues hi) hFix)).symm
  have hText : i.repair c t = Fix.lowercaseHead found (trim t) := by
    rw [Issue.repair, hFix, hTrim]
    rfl
  rcases fix_cases hi hFix with h | ⟨found', hSame, hCase⟩ | ⟨h, -⟩ | ⟨h, -⟩ | ⟨h, -⟩ |
    ⟨k, l, h, -⟩
  · cases h
  · obtain rfl := Fix.lowercaseType.inj hSame
    obtain ⟨hType, -, k, hLower⟩ := miscased?_eq_some_iff.1 hCase
    obtain ⟨hInk', hKnown, hAgrees⟩ := agrees_lowercaseHead hInk hType hLower
    have hShort : i.rule ≠ .lineLength := by rw [hRule]; decide
    rw [hText, lint_eq_issues hInk', issues_eq, erase_issues hi hShort]
    apply List.flatMap_congr
    intro r _
    by_cases hEq : r = i.rule
    · rw [if_pos hEq, hEq, hRule, Rule.check_knownType_eq_nil_iff]
      exact ⟨k, hKnown⟩
    · rw [if_neg hEq, Rule.check_of_agrees (hAgrees r (hRule ▸ hEq))]
  all_goals cases h

/-- An empty line below the header settles R8 and moves the issues about long lines
below it. -/
theorem lint_insertBlankLine (hTrim : trim t = t) (hInk : blank t = false)
    (hi : i ∈ (reading t).issues) (hRule : i.rule = .blankLine) (c : Choices) :
    List.Forall₂ Issue.SetOff ((reading t).issues.erase i) (lint (i.repair c t)) := by
  have hCheck := mem_check_of_mem_issues hi
  rw [hRule] at hCheck
  obtain ⟨hFix, hCrowd⟩ := Rule.of_mem_checkBlankLine hCheck
  have hText : i.repair c t = Fix.separateBody (trim t) := by
    rw [Issue.repair, hFix, hTrim]
    rfl
  obtain ⟨hInk', hLines, hAgrees⟩ := agrees_separateBody hInk hCrowd
  have hShort : i.rule ≠ .lineLength := by rw [hRule]; decide
  rw [hText, lint_eq_issues hInk', erase_issues hi hShort, issues_eq, hRule]
  refine List.rel_flatMap (R := Eq) (List.forall₂_refl Rule.all) ?_
  rintro r _ rfl
  dsimp only
  by_cases hOwn : r = .blankLine
  · rw [if_pos hOwn, hOwn, Rule.check, Rule.checkBlankLine, hLines]
    exact .nil
  · rw [if_neg hOwn]
    by_cases hLong : r = .lineLength
    · subst hLong
      have hAfter := forall₂_setOff_longLines (reading t).header (reading t).lines.tail
      rw [← hLines, ← lines_trim] at hAfter
      exact hAfter
    · rw [Rule.check_of_agrees (hAgrees r hOwn hLong)]
      apply forall₂_setOff_self
      intro j hj
      rw [Issue.isBelow, Rule.lineIndex?_of_mem_check hLong hj]
      rfl

/-- A colon settles R4; what the rules find that see it is found anew. -/
theorem lint_insertColon (hTrim : trim t = t) (hInk : blank t = false)
    (hi : i ∈ (reading t).issues) (hRule : i.rule = .colonPresent) (c : Choices) :
    let m := reading t
    let t' := i.repair c t
    ∃ m', parse? (trim t') = some m' ∧ m'.parts = { m.parts with hasColon := true } ∧
      m'.lines.tail = m.lines.tail ∧
      lint t' = Rule.all.flatMap (Rule.afterColon m.issues m') := by
  intro m t'
  have hCheck := mem_check_of_mem_issues hi
  rw [hRule] at hCheck
  obtain ⟨hFix, hType, hColon⟩ := Rule.of_mem_checkColonPresent hCheck
  have hText : t' = mapFirstLine Fix.addColon (trim t) := by
    rw [show t' = i.repair c t from rfl, Issue.repair, hFix, hTrim]
    rfl
  obtain ⟨hInk', hParts, hBelow, hAgrees⟩ := agrees_addColon hInk hType hColon
  rw [← hText] at hInk' hParts hBelow hAgrees
  have hRead : parse? (trim t') = some { reading t' with raw := trim t' } := by
    rw [← reading_trim]
    exact parse?_eq_reading (by rw [blank_trim]; exact hInk')
  refine ⟨_, hRead, hParts, hBelow, ?_⟩
  rw [lint_eq_issues hInk', issues_eq]
  apply List.flatMap_congr
  intro r _
  have hOther : r ∉ [.colonPresent, .subjectPresent, .headerLength, .lineLength] →
      r.check (reading t') = reports m.issues r := by
    intro hr
    rw [reports_issues, Rule.check_of_agrees (hAgrees r hr)]
  cases r with
  | headerPresent | knownType | scopeFormat | noFinalPeriod | blankLine =>
      exact hOther (by decide)
  | headerLength => rfl
  | colonPresent =>
      rw [Rule.check, Rule.checkColonPresent, hParts]
      simp [Rule.afterColon]
  | subjectPresent =>
      have hLacks : Rule.lacksSubject (reading t') = (reading t').parts.subject.isNone := by
        rw [Rule.lacksSubject]
        cases hSubject : (reading t').parts.subject with
        | none => rfl
        | some u =>
            have hSome := (Header.subject_eq_some (parts_reading t' ▸ hSubject)).1
            simpa using hSome
      have hTyped : (reading t').parts.type.isSome = true ∧
          (reading t').parts.hasColon = true := by
        rw [hParts]
        exact ⟨hType, rfl⟩
      rw [Rule.check, Rule.checkSubjectPresent, hLacks, hTyped.1, hTyped.2]
      rfl
  | lineLength =>
      have hOld : reports m.issues .lineLength = Rule.longLines 0 (Text.lines (trim t)) := by
        rw [reports_issues]
        rfl
      have hDrop : (Text.lines (trim t)).drop (0 + 1) = (reading t').lines.tail := by
        rw [hBelow, List.drop_one]
        rfl
      show Rule.longLines 0 (Text.lines (trim t')) = _
      rw [Rule.afterColon, hOld, Rule.filter_isBelow_longLines, hDrop, lines_trim,
        Rule.longLines]

end Message

namespace Session

/--
**Repairing one issue of the structure** leaves the other issues alone.  In every
session that actions lead to:

* writing the type in lower case removes its issue from the list;
* putting an empty line below the header removes R8 from the list, and an issue
  about a long line below the header says the same of the line one further down;
* putting in the colon changes nothing else that is read off the message, and of
  the issues it removes R4, adds R5 if there was no subject, and finds R7, and R9
  for the header, anew.
-/
theorem applyIssue_structural (actions : List Action) (n : Int) (i : Issue)
    (hIssue : (run actions).issueAt? n = some i) :
    let s := run actions
    let s' := s.applyIssue i
    s.act (.applyIssue n) = .ok s' ∧
      (∀ found, i.fix = some (.lowercaseType found) → s'.issues = s.issues.erase i) ∧
      (i.rule = .blankLine → List.Forall₂ Issue.SetOff (s.issues.erase i) s'.issues) ∧
      (i.rule = .colonPresent →
        ∃ m m', Message.parse? s.current = some m ∧ Message.parse? s'.current = some m' ∧
          m'.parts = { m.parts with hasColon := true } ∧ m'.lines.tail = m.lines.tail ∧
          s'.issues = Rule.all.flatMap (Rule.afterColon s.issues m')) := by
  intro s s'
  have hAccount := account_run actions
  have hMem : i ∈ s.issues := mem_of_issueAt? hIssue
  have hOther : i ≠ ⟨.headerPresent, .error, Message.emptyError, none⟩ →
      blank s.current = false ∧ s.issues = (Message.reading s.current).issues :=
    hAccount.issues_eq_reading hMem
  rw [issues_applyIssue]
  refine ⟨act_applyIssue hIssue, ?_, ?_, ?_⟩
  · intro found hFix
    obtain ⟨hInk, hIssues⟩ := hOther (by rintro rfl; cases hFix)
    rw [hIssues] at hMem ⊢
    exact Message.lint_lowercaseType hAccount.trimmed hInk hMem hFix s.choices
  · intro hRule
    obtain ⟨hInk, hIssues⟩ := hOther (by rintro rfl; cases hRule)
    rw [hIssues] at hMem ⊢
    exact Message.lint_insertBlankLine hAccount.trimmed hInk hMem hRule s.choices
  · intro hRule
    obtain ⟨hInk, hIssues⟩ := hOther (by rintro rfl; cases hRule)
    rw [hIssues] at hMem ⊢
    obtain ⟨m', hRead, hAfter⟩ :=
      Message.lint_insertColon hAccount.trimmed hInk hMem hRule s.choices
    exact ⟨_, m', Message.parse?_eq_reading hInk, hRead, hAfter⟩

/-- A header with a type in capitals and no colon, crowded by a body with a long
line. -/
theorem applyIssue_structural_three_fixes :
    let line : Text := Wrap.joined (List.replicate 20 "word".toList)
    let s := run [.update (unlines ["FEAT(api) add".toList, "body".toList, line])]
    let lower : Issue := ⟨.knownType, .error, "Type \x22FEAT\x22 should be lowercase".toList,
      some (.lowercaseType "FEAT".toList)⟩
    let colon : Issue :=
      ⟨.colonPresent, .error, "Missing colon after type/scope".toList, some .insertColon⟩
    let crowd : Issue := ⟨.blankLine, .error,
      "Body must be separated from the header by a blank line".toList, some .insertBlankLine⟩
    let long := Rule.longLine .warning 75 2 99
    s.issues = [lower, colon, crowd, long] ∧
      (s.applyIssue lower).issues = [colon, crowd, long] ∧
      List.Forall₂ Issue.SetOff [lower, colon, long] (s.applyIssue crowd).issues ∧
      ∃ m m', Message.parse? s.current = some m ∧
        Message.parse? (s.applyIssue colon).current = some m' ∧
        m'.parts = { m.parts with hasColon := true } ∧ m'.lines.tail = m.lines.tail ∧
        (s.applyIssue colon).issues = Rule.all.flatMap (Rule.afterColon s.issues m') := by
  intro line s lower colon crowd long
  have hIssues : s.issues = [lower, colon, crowd, long] := by decide +kernel
  have hFirst : s.issueAt? 0 = some lower := by
    show s.issues[0]? = some lower
    rw [hIssues]
    rfl
  have hSecond : s.issueAt? 1 = some colon := by
    show s.issues[1]? = some colon
    rw [hIssues]
    rfl
  have hFromEnd : s.issueAt? (-2) = some crowd := by
    show s.issues.reverse[1]? = some crowd
    rw [hIssues]
    rfl
  obtain ⟨-, hLower, -, -⟩ := applyIssue_structural _ 0 lower hFirst
  obtain ⟨-, -, -, hColon⟩ := applyIssue_structural _ 1 colon hSecond
  obtain ⟨-, -, hCrowd, -⟩ := applyIssue_structural _ (-2) crowd hFromEnd
  have hWithoutFirst : s.issues.erase lower = [colon, crowd, long] := by
    rw [hIssues, List.erase_cons_head]
  have hWithoutThird : s.issues.erase crowd = [lower, colon, long] := by
    rw [hIssues, List.erase_cons_tail (by decide), List.erase_cons_tail (by decide),
      List.erase_cons_head]
  refine ⟨hIssues, ?_, ?_, hColon rfl⟩
  · rw [← hWithoutFirst]
    exact hLower _ rfl
  · rw [← hWithoutThird]
    exact hCrowd rfl

end Session

end CommitLint
