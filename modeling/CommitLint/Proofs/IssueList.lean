import CommitLint.Lint
import CommitLint.Proofs.Opening

/-!
# What an issue tells about its message

Linting a text that is not blank lists what each rule finds in its reading.
Every rule but the last finds at most one issue, and an issue names its rule and
carries the fix that belongs to it; these facts are stated once here, one lemma
for each rule that offers a fix and one for all the others.
-/

namespace CommitLint

open Text

/-! ## Names of types -/

theorem CommitType.isLetter_of_mem_name {k : CommitType} {c : Char} (h : c ∈ k.name) :
    isLetter c = true := by
  have hAll : ∀ k : CommitType, k.name.all isLetter = true := by
    intro k
    cases k <;> decide
  exact List.all_eq_true.1 (hAll k) c h

theorem CommitType.newline_not_mem_name (k : CommitType) : '\n' ∉ k.name := by
  intro hMem
  exact absurd (isLetter_of_mem_name hMem) (by decide)

theorem CommitType.name_ne_nil (k : CommitType) : k.name ≠ [] := by
  cases k <;> decide

/-- A text that nothing but its case keeps from being the name of a type. -/
def CommitType.miscased (t : Text) : Bool := (ofName? t).isNone && (ofAnyCase? t).isSome

theorem CommitType.miscased_name (k : CommitType) : miscased k.name = false := by
  simp [miscased]

/-! ## The reading of a text -/

/-- What is read off a text that is not blank. -/
def Message.reading (t : Text) : Message :=
  ⟨t, firstLine (trim t), Header.parse (firstLine (trim t)), bodyOf (Text.lines (trim t)),
    Text.lines (trim t)⟩

theorem Message.parse?_eq_reading {t : Text} (hInk : blank t = false) :
    parse? t = some (reading t) := parse?_of_not_blank hInk

/-- What has been read is the reading of a text that is not blank. -/
theorem Message.parse?_eq_some_iff {t : Text} {m : Message} :
    parse? t = some m ↔ blank t = false ∧ reading t = m := by
  cases hBlank : blank t with
  | true => simp [(parse?_eq_none_iff t).2 hBlank]
  | false => simp [parse?_eq_reading hBlank]

/-- The lines of a trimmed text are the header and the lines below it. -/
theorem Message.lines_trim (t : Text) :
    Text.lines (trim t) = (reading t).header :: (reading t).lines.tail := by
  obtain ⟨rest, hLines⟩ := lines_eq_cons (trim t)
  simp [reading, hLines]

theorem Message.trim_eq_unlines (t : Text) :
    trim t = unlines ((reading t).header :: (reading t).lines.tail) := by
  rw [← lines_trim, unlines_lines]

/-- What is read off a text whose lines are known. -/
theorem Message.reading_of_lines {t header : Text} {rest : List Text}
    (hLines : Text.lines (trim t) = header :: rest) :
    reading t = ⟨t, header, Header.parse header, bodyOf (header :: rest), header :: rest⟩ := by
  rw [reading, firstLine_of_lines hLines, hLines]

theorem Message.reading_trim (t : Text) :
    reading (trim t) = { reading t with raw := trim t } := by
  simp [reading]

theorem Message.newline_not_mem_line {t l : Text}
    (hl : l ∈ (reading t).header :: (reading t).lines.tail) : '\n' ∉ l := by
  rw [← lines_trim] at hl
  exact newline_not_mem_of_mem_lines hl

/-- A header begins with a character that is not blank. -/
theorem Message.head?_header {t : Text} (hInk : blank t = false) :
    ∃ c ∈ (reading t).header.head?, isBlank c = false := by
  obtain ⟨l, hl, hHead⟩ := (tidy_lines_trim hInk).headInk
  rw [firstLine_eq, Option.mem_def, Option.some_inj] at hl
  rw [show (reading t).header = firstLine (trim t) from rfl, hl]
  exact hHead

/-- A header has ink, so R1 finds nothing. -/
theorem Message.blank_header {t : Text} (hInk : blank t = false) :
    blank (reading t).header = false := by
  obtain ⟨c, hc, hcInk⟩ := head?_header hInk
  exact not_blank_of_mem (List.mem_of_mem_head? hc) hcInk

/-- A crowded header has a line below it that is not blank. -/
theorem Message.exists_of_crowdsHeader {ls : List Text} (h : crowdsHeader ls = true) :
    ∃ header l rest, ls = header :: l :: rest ∧ blank l = false := by
  cases ls with
  | nil => simp [crowdsHeader] at h
  | cons header rest =>
      cases rest with
      | nil => simp [crowdsHeader] at h
      | cons l ls => exact ⟨header, l, ls, rfl, by simpa [crowdsHeader] using h⟩

theorem Message.issues_eq (m : Message) : m.issues = Rule.all.flatMap (·.check m) := by
  rw [issues, Rule.runChain_eq, List.nil_append]

theorem Message.parts_reading (t : Text) :
    (reading t).parts = Header.parse (firstLine (trim t)) := rfl

theorem Message.type_reading (t : Text) :
    (reading t).parts.type = (Header.opening? (firstLine (trim t))).map Header.Opening.type :=
  Header.type_parse _

theorem lint_of_blank {t : Text} (hBlank : blank t = true) :
    lint t = [⟨.headerPresent, .error, Message.emptyError, none⟩] := by
  have hNone : Message.parse? (trim t) = none := by
    rw [Message.parse?_eq_none_iff, blank_trim]
    exact hBlank
  rw [lint, Message.normalize, hNone]

/-- Trimming first does not change what is found. -/
theorem lint_eq_issues {t : Text} (hInk : blank t = false) :
    lint t = (Message.reading t).issues := by
  have hTrim : blank (trim t) = false := by rw [blank_trim]; exact hInk
  rw [lint, Message.normalize, Message.parse?_eq_reading hTrim]
  simp only [Message.issues_eq, Message.reading, trim_trim]
  rfl

@[simp] theorem lint_trim (t : Text) : lint (trim t) = lint t := by
  simp [lint, Message.normalize]

theorem Message.mem_issues {m : Message} {i : Issue} :
    i ∈ m.issues ↔ ∃ r : Rule, i ∈ r.check m := by
  rw [issues_eq, List.mem_flatMap]
  constructor
  · rintro ⟨r, -, hi⟩
    exact ⟨r, hi⟩
  · rintro ⟨r, hi⟩
    exact ⟨r, by cases r <;> decide, hi⟩

namespace Rule

/-! ## Rules that offer a fix -/

theorem of_mem_checkKnownType {m : Message} {i : Issue} (h : i ∈ checkKnownType m) :
    i.fix = some (.choose .type) ∧ (∀ t ∈ m.parts.type, CommitType.ofAnyCase? t = none) ∨
      ∃ t k, m.parts.type = some t ∧ CommitType.ofName? t = none ∧
        CommitType.ofAnyCase? t = some k ∧ i.fix = some (.lowercaseType t) := by
  unfold checkKnownType at h
  split at h
  · rename_i hType
    rw [List.mem_singleton] at h
    left
    simp [h, hType]
  · rename_i t hType
    split at h
    · simp at h
    · rename_i hName
      split at h
      · rename_i hCase
        obtain ⟨k, hk⟩ := Option.isSome_iff_exists.1 hCase
        rw [List.mem_singleton] at h
        right
        exact ⟨t, k, hType, by simpa using hName, hk, by rw [h]⟩
      · rename_i hCase
        rw [List.mem_singleton] at h
        left
        refine ⟨by rw [h], ?_⟩
        intro s hs
        have hEq : t = s := by simpa [hType] using hs
        rw [← hEq]
        simpa using hCase

theorem of_mem_checkColonPresent {m : Message} {i : Issue} (h : i ∈ checkColonPresent m) :
    i.fix = some .insertColon ∧ m.parts.type.isSome = true ∧ m.parts.hasColon = false := by
  unfold checkColonPresent at h
  split at h
  · rename_i hCond
    rw [Bool.and_eq_true, Bool.not_eq_true'] at hCond
    rw [List.mem_singleton] at h
    exact ⟨by rw [h], hCond⟩
  · simp at h

theorem of_mem_checkNoFinalPeriod {m : Message} {i : Issue} (h : i ∈ checkNoFinalPeriod m) :
    i.fix = some .dropPeriod ∧ (m.parts.subject.getD []).getLast? = some '.' := by
  unfold checkNoFinalPeriod at h
  split at h
  · rename_i hCond
    rw [List.mem_singleton] at h
    exact ⟨by rw [h], by simpa using hCond⟩
  · simp at h

theorem of_mem_checkBlankLine {m : Message} {i : Issue} (h : i ∈ checkBlankLine m) :
    i.fix = some .insertBlankLine ∧ Message.crowdsHeader m.lines = true := by
  unfold checkBlankLine at h
  split at h
  · rename_i hCond
    rw [List.mem_singleton] at h
    exact ⟨by rw [h], hCond⟩
  · simp at h

theorem longLine?_eq_none_iff (index : Nat) (l : Text) :
    longLine? index l = none ↔ l.length ≤ lineWarn := by
  unfold longLine?
  by_cases hError : l.length > lineMax
  · have hWarn : ¬ l.length ≤ lineWarn := by
      unfold lineMax at hError
      unfold lineWarn
      omega
    simp [hError, hWarn]
  · by_cases hWarn : l.length > lineWarn
    · simp [hError, hWarn]
    · have hShort : l.length ≤ lineWarn := Nat.le_of_not_lt hWarn
      simp [hError, hWarn, hShort]

theorem of_mem_longLine? {index : Nat} {l : Text} {i : Issue} (h : i ∈ longLine? index l) :
    i.rule = .lineLength ∧ i.fix = some (.wrapLine index) := by
  simp only [longLine?] at h
  split at h
  · have hEq := Option.some.inj h
    simp [← hEq, longLine]
  · split at h
    · have hEq := Option.some.inj h
      simp [← hEq, longLine]
    · simp at h

theorem of_mem_longLines {i : Issue} {ls : List Text} {first : Nat}
    (h : i ∈ longLines first ls) :
    ∃ k l, ls[k]? = some l ∧ i ∈ longLine? (first + k) l := by
  induction ls generalizing first with
  | nil => simp [longLines] at h
  | cons l ls ih =>
      rw [longLines, List.mem_append] at h
      rcases h with h | h
      · exact ⟨0, l, rfl, by simpa using h⟩
      · obtain ⟨k, x, hx, hi⟩ := ih h
        refine ⟨k + 1, x, by simpa using hx, ?_⟩
        rw [show first + (k + 1) = first + 1 + k by omega]
        exact hi

/-- An issue about a long line names that line. -/
theorem of_mem_checkLineLength {m : Message} {i : Issue} (h : i ∈ checkLineLength m) :
    ∃ k l, m.lines[k]? = some l ∧ lineWarn < l.length ∧ i.fix = some (.wrapLine k) := by
  obtain ⟨k, l, hl, hi⟩ := of_mem_longLines h
  rw [Nat.zero_add] at hi
  refine ⟨k, l, hl, ?_, (of_mem_longLine? hi).2⟩
  apply Nat.lt_of_not_le
  intro hShort
  rw [(longLine?_eq_none_iff k l).2 hShort] at hi
  simp at hi

theorem checkLineLength_eq_nil {m : Message} (h : ∀ l ∈ m.lines, l.length ≤ lineWarn) :
    checkLineLength m = [] := by
  rw [List.eq_nil_iff_forall_not_mem]
  intro i hi
  obtain ⟨k, l, hl, hLong, -⟩ := of_mem_checkLineLength hi
  have hShort := h l (List.mem_of_getElem? hl)
  omega

/-! ## All rules -/

/-- Only the rule on long lines finds more than one issue, and what a rule finds
names that rule. -/
theorem check_eq_nil_or_singleton {r : Rule} (hr : r ≠ .lineLength) (m : Message) :
    r.check m = [] ∨ ∃ i : Issue, r.check m = [i] ∧ i.rule = r := by
  cases r with
  | lineLength => exact absurd rfl hr
  | headerPresent =>
      simp only [check, checkHeaderPresent]
      split
      · exact Or.inr ⟨_, rfl, rfl⟩
      · exact Or.inl rfl
  | knownType =>
      simp only [check, checkKnownType]
      split
      · exact Or.inr ⟨_, rfl, rfl⟩
      · split
        · exact Or.inl rfl
        · split
          · exact Or.inr ⟨_, rfl, rfl⟩
          · exact Or.inr ⟨_, rfl, rfl⟩
  | scopeFormat =>
      simp only [check, checkScopeFormat]
      split
      · exact Or.inl rfl
      · split
        · exact Or.inl rfl
        · exact Or.inr ⟨_, rfl, rfl⟩
  | colonPresent =>
      simp only [check, checkColonPresent]
      split
      · exact Or.inr ⟨_, rfl, rfl⟩
      · exact Or.inl rfl
  | subjectPresent =>
      simp only [check, checkSubjectPresent]
      split
      · exact Or.inr ⟨_, rfl, rfl⟩
      · exact Or.inl rfl
  | noFinalPeriod =>
      simp only [check, checkNoFinalPeriod]
      split
      · exact Or.inr ⟨_, rfl, rfl⟩
      · exact Or.inl rfl
  | headerLength =>
      simp only [check, checkHeaderLength]
      split
      · exact Or.inr ⟨_, rfl, rfl⟩
      · split
        · exact Or.inr ⟨_, rfl, rfl⟩
        · exact Or.inl rfl
  | blankLine =>
      simp only [check, checkBlankLine]
      split
      · exact Or.inr ⟨_, rfl, rfl⟩
      · exact Or.inl rfl

theorem rule_of_mem_check {r : Rule} {m : Message} {i : Issue} (h : i ∈ r.check m) :
    i.rule = r := by
  by_cases hr : r = .lineLength
  · subst hr
    obtain ⟨k, l, -, hi⟩ := of_mem_longLines (show i ∈ longLines 0 m.lines from h)
    exact (of_mem_longLine? hi).1
  · rcases check_eq_nil_or_singleton hr m with hNil | ⟨j, hOne, hRule⟩
    · simp [hNil] at h
    · rw [hOne, List.mem_singleton] at h
      rw [h]
      exact hRule

theorem eq_of_mem_check {r : Rule} (hr : r ≠ .lineLength) {m : Message} {i j : Issue}
    (hi : i ∈ r.check m) (hj : j ∈ r.check m) : i = j := by
  rcases check_eq_nil_or_singleton hr m with hNil | ⟨k, hOne, -⟩
  · simp [hNil] at hi
  · rw [hOne, List.mem_singleton] at hi hj
    rw [hi, hj]

/-- The rules that offer a fix. -/
def offersFix : Rule → Bool
  | knownType | colonPresent | noFinalPeriod | blankLine | lineLength => true
  | _ => false

theorem fix_eq_none_of_mem_check {r : Rule} (hr : r.offersFix = false) {m : Message} {i : Issue}
    (h : i ∈ r.check m) : i.fix = none := by
  cases r with
  | headerPresent =>
      simp only [check, checkHeaderPresent] at h
      split at h
      · rw [List.mem_singleton.1 h]
      · simp at h
  | scopeFormat =>
      simp only [check, checkScopeFormat] at h
      split at h
      · simp at h
      · split at h
        · simp at h
        · rw [List.mem_singleton.1 h]
  | subjectPresent =>
      simp only [check, checkSubjectPresent] at h
      split at h
      · rw [List.mem_singleton.1 h]
      · simp at h
  | headerLength =>
      simp only [check, checkHeaderLength] at h
      split at h
      · rw [List.mem_singleton.1 h]
      · split at h
        · rw [List.mem_singleton.1 h]
        · simp at h
  | knownType | colonPresent | noFinalPeriod | blankLine | lineLength =>
      simp [offersFix] at hr

end Rule

/-- The rule that offers a fix; no rule asks for the ends to be trimmed. -/
def Fix.rule? : Fix → Option Rule
  | trimEnds => none
  | lowercaseType _ => some .knownType
  | insertColon => some .colonPresent
  | dropPeriod => some .noFinalPeriod
  | insertBlankLine => some .blankLine
  | wrapLine _ => some .lineLength
  | choose _ => some .knownType

theorem Rule.rule?_of_mem_check {r : Rule} {m : Message} {i : Issue} {f : Fix}
    (h : i ∈ r.check m) (hFix : i.fix = some f) : f.rule? = some r := by
  cases r with
  | headerPresent | scopeFormat | subjectPresent | headerLength =>
      rw [fix_eq_none_of_mem_check rfl h] at hFix
      contradiction
  | knownType =>
      rcases of_mem_checkKnownType h with ⟨hOwn, -⟩ | ⟨t, k, -, -, -, hOwn⟩
      · rw [← Option.some.inj (hOwn.symm.trans hFix)]
        rfl
      · rw [← Option.some.inj (hOwn.symm.trans hFix)]
        rfl
  | colonPresent =>
      rw [← Option.some.inj ((of_mem_checkColonPresent h).1.symm.trans hFix)]
      rfl
  | noFinalPeriod =>
      rw [← Option.some.inj ((of_mem_checkNoFinalPeriod h).1.symm.trans hFix)]
      rfl
  | blankLine =>
      rw [← Option.some.inj ((of_mem_checkBlankLine h).1.symm.trans hFix)]
      rfl
  | lineLength =>
      obtain ⟨k, l, -, -, hOwn⟩ := of_mem_checkLineLength h
      rw [← Option.some.inj (hOwn.symm.trans hFix)]
      rfl

/-- What only the fixes of one rule hold is not found in the issues of another. -/
theorem Rule.bind_fix_eq_none {α : Type} {read : Fix → Option α} {r r' : Rule}
    (hOwner : ∀ f, (read f).isSome = true → f.rule? = some r) (hr : r' ≠ r) {m : Message}
    {i : Issue} (h : i ∈ r'.check m) : i.fix.bind read = none := by
  cases hFix : i.fix with
  | none => rfl
  | some f =>
      rw [Option.bind_some, ← Option.not_isSome_iff_eq_none]
      intro hRead
      have hRule := rule?_of_mem_check h hFix
      rw [hOwner f hRead, Option.some_inj] at hRule
      exact hr hRule.symm

/-- Of a message's issues, the ones of a rule are those that name it. -/
theorem Message.mem_check_of_mem_issues {m : Message} {i : Issue} (h : i ∈ m.issues) :
    i ∈ i.rule.check m := by
  obtain ⟨r, hr⟩ := mem_issues.1 h
  rw [Rule.rule_of_mem_check hr]
  exact hr

/-- The issues about long lines are those of the last rule. -/
theorem Message.filter_issues (m : Message) :
    m.issues.filter (fun i => i.rule != .lineLength) =
      Rule.all.dropLast.flatMap (·.check m) := by
  have hKeep : (Rule.all.dropLast.flatMap (·.check m)).filter (fun i => i.rule != .lineLength) =
      Rule.all.dropLast.flatMap (·.check m) := by
    have hOther : ∀ r ∈ Rule.all.dropLast, r ≠ .lineLength := by decide
    rw [List.filter_eq_self]
    intro i hi
    obtain ⟨r, hr, hCheck⟩ := List.mem_flatMap.1 hi
    rw [Rule.rule_of_mem_check hCheck, bne_iff_ne]
    exact hOther r hr
  have hDrop : (Rule.check .lineLength m).filter (fun i => i.rule != .lineLength) = [] := by
    rw [List.filter_eq_nil_iff]
    intro i hi
    simp [Rule.rule_of_mem_check hi]
  have hAll : Rule.all = Rule.all.dropLast ++ [.lineLength] := by decide
  conv => lhs; rw [issues_eq, hAll, List.flatMap_append, List.filter_append, hKeep]
  rw [List.flatMap_singleton, hDrop, List.append_nil]

theorem Message.issues_eq_append (m : Message) :
    m.issues = m.issues.filter (fun i => i.rule != .lineLength) ++ Rule.check .lineLength m := by
  rw [filter_issues, issues_eq]
  simp [Rule.all]

/-- The issues of a rule, in order. -/
def reports (issues : List Issue) (r : Rule) : List Issue := issues.filter fun i => i.rule == r

theorem Rule.filter_check (r r' : Rule) (m : Message) :
    (r.check m).filter (fun i => i.rule == r') = if r = r' then r.check m else [] := by
  by_cases hEq : r = r'
  · rw [if_pos hEq, List.filter_eq_self]
    intro i hi
    rw [rule_of_mem_check hi, beq_iff_eq]
    exact hEq
  · rw [if_neg hEq, List.filter_eq_nil_iff]
    intro i hi
    rw [rule_of_mem_check hi, beq_iff_eq]
    exact hEq

/-- Of the issues of a message, a rule has found those that name it. -/
theorem Message.reports_issues (m : Message) (r : Rule) : reports m.issues r = r.check m := by
  rw [reports, issues_eq, List.filter_flatMap]
  simp only [Rule.filter_check]
  cases r <;> simp [Rule.all]

/-- Whether issues of a rule are among the selected ones. -/
def selects (selection : List Issue) (r : Rule) : Bool :=
  selection.any fun i => i.rule == r

theorem Message.selects_issues (m : Message) (r : Rule) :
    selects m.issues r = !(r.check m).isEmpty := by
  rw [Bool.eq_iff_iff, selects, List.any_eq_true, Bool.not_eq_true', List.isEmpty_eq_false_iff]
  constructor
  · rintro ⟨i, hi, hRule⟩
    have hCheck := mem_check_of_mem_issues hi
    rw [beq_iff_eq.1 hRule] at hCheck
    exact List.ne_nil_of_mem hCheck
  · intro hNe
    obtain ⟨i, hi⟩ := List.exists_mem_of_ne_nil _ hNe
    exact ⟨i, mem_issues.2 ⟨r, hi⟩, beq_iff_eq.2 (Rule.rule_of_mem_check hi)⟩

end CommitLint
