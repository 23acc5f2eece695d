import CommitLint.Proofs.HeaderEdits

/-!
# Repairing a selection of issues in any order

A message whose lines are short has at most one issue of each rule, and the
fixes of different rules touch different parts of it: the type, the colon, the
end of the subject, the line below the header.  So the result depends on which
issues are selected and not on their order.  `Header.edited` and `editedBelow`
say what it is, part by part, as functions of the rules that are selected.

The proof follows the repair from left to right.  `Follows` is the invariant:
the text so far opens with a header whose reading is the edited one for the
issues handled so far.  `Follows.step` adds one issue, by cases on its rule.

Main results: `Follows.run`, `Follows.reading`.
-/

namespace CommitLint

open Text

/-- The type that the fix for R2 leaves: the lower-case spelling if it is known,
the user's decision if it is not. -/
def Header.repairedType (c : Choices) (t : Text) : Text :=
  if (CommitType.ofAnyCase? t).isSome then lower t
  else
    match c.type with
    | none => t
    | some k => k.name

/-- The subject without its last character, trimmed again. -/
def Header.shortenedSubject (u : Text) : Option Text := nonempty? (trim u.dropLast)

/-- A header with the edits that belong to the selected rules. -/
def Header.edited (c : Choices) (selection : List Issue) (p : Header) : Header where
  type := if selects selection .knownType then p.type.map (repairedType c) else p.type
  scope := p.scope
  hasColon := p.hasColon || selects selection .colonPresent
  subject :=
    if selects selection .noFinalPeriod then p.subject.bind shortenedSubject else p.subject

/-- The lines below the header, after an empty one if that rule is selected. -/
def editedBelow (selection : List Issue) (rest : List Text) : List Text :=
  if selects selection .blankLine then [] :: rest else rest

theorem selects_append_singleton (done : List Issue) (i : Issue) (r : Rule) :
    selects (done ++ [i]) r = (selects done r || i.rule == r) := by
  simp [selects]

theorem selects_perm {s s' : List Issue} (h : s.Perm s') (r : Rule) :
    selects s r = selects s' r := by
  rw [Bool.eq_iff_iff]
  simp only [selects, List.any_eq_true]
  constructor
  · rintro ⟨i, hi, hr⟩
    exact ⟨i, h.subset hi, hr⟩
  · rintro ⟨i, hi, hr⟩
    exact ⟨i, h.symm.subset hi, hr⟩

/-! ## The separator under an edit -/

/-- Taking the period off the end shortens the subject and leaves the separator. -/
theorem Header.separated_dropLast {r u : Text} {colon : Bool}
    (h : separated r = (colon, some u)) :
    separated (trimEnd r).dropLast = (colon, shortenedSubject u) := by
  obtain ⟨hNe, gap, hEnd, hRead⟩ := separated_subject h
  rw [hEnd, List.dropLast_append_of_ne_nil hNe, hRead _ (List.dropLast_prefix u)]
  rfl

/-- A colon put after the scope leaves the subject. -/
theorem Header.separated_addColon {r : Text} (h : (separated r).1 = false) :
    separated (':' :: ' ' :: trim r) = (true, (separated r).2) := by
  have hNone : (trimStart r).head? ≠ some ':' := by
    rcases separated_cases r with ⟨b, s, hBlank, rfl⟩ | hNone
    · rw [separated_of_colon hBlank] at h
      simp at h
    · exact hNone
  have hSpace : blank [' '] = true := by decide
  have hNew := separated_of_colon (b := []) rfl (' ' :: trim r)
  rw [List.nil_append] at hNew
  rw [hNew, separated_of_no_colon hNone]
  rw [show ' ' :: trim r = [' '] ++ trim r from rfl, trim_blank_append hSpace, trim_trim]

/-! ## One issue more -/

/-- The text so far opens with the header edited for the issues handled so
far. -/
def Follows (c : Choices) (m : Message) (done : List Issue) (text : Text) : Prop :=
  ∃ o, Opens o (editedBelow done m.lines.tail) text ∧
    Header.parse o.toText = m.parts.edited c done

namespace Follows

variable {c : Choices} {m : Message} {done : List Issue} {text : Text} {i : Issue}

/-- What the invariant says about the parts of the opening. -/
theorem parts_eq {o : Header.Opening} (hSealed : o.Sealed)
    (h : Header.parse o.toText = m.parts.edited c done) :
    (m.parts.edited c done).type = some o.type ∧ o.scope = m.parts.scope ∧
      Header.separated o.rest =
        ((m.parts.edited c done).hasColon, (m.parts.edited c done).subject) := by
  rw [Header.parse_of_opening hSealed.opening?] at h
  rw [← h]
  refine ⟨rfl, ?_, rfl⟩
  have hScope := congrArg Header.scope h
  simpa [Header.edited] using hScope

theorem selects_other {r : Rule} (hNe : i.rule ≠ r) :
    selects (done ++ [i]) r = selects done r := by
  rw [selects_append_singleton, beq_eq_false_iff_ne.2 hNe, Bool.or_false]

/-- An issue of a rule without a fix changes neither side. -/
theorem step_of_not_offersFix (h : Follows c m done text) (hFix : i.rule.offersFix = false)
    (hMem : i ∈ i.rule.check m) : Follows c m (done ++ [i]) (i.repair c text) := by
  obtain ⟨o, hOpens, hParse⟩ := h
  have hNone := Rule.fix_eq_none_of_mem_check hFix hMem
  have hKeep : ∀ r : Rule, r.offersFix = true → selects (done ++ [i]) r = selects done r := by
    intro r hr
    apply selects_other
    intro hEq
    rw [hEq, hr] at hFix
    contradiction
  have hText : i.repair c text = text := by simp [Issue.repair, hNone]
  refine ⟨o, ?_, ?_⟩
  · rw [hText, editedBelow, hKeep .blankLine rfl]
    exact hOpens
  · rw [hParse]
    simp only [Header.edited, hKeep .knownType rfl, hKeep .colonPresent rfl,
      hKeep .noFinalPeriod rfl]

theorem selects_own {r : Rule} (hEq : i.rule = r) : selects (done ++ [i]) r = true := by
  rw [selects_append_singleton, beq_iff_eq.2 hEq, Bool.or_true]

theorem selects_others {r : Rule} (hEq : i.rule = r) (done : List Issue) :
    ∀ r', r ≠ r' → selects (done ++ [i]) r' = selects done r' := by
  intro r' hNe
  apply selects_other
  rw [hEq]
  exact hNe

/-- The fix for R2 puts one type in place of another. -/
theorem opens_repairedType {o : Header.Opening} {rest : List Text} (h : Opens o rest text)
    (hType : m.parts.type = some o.type) (hMem : i ∈ Rule.checkKnownType m) :
    Opens { o with type := Header.repairedType c o.type } rest (i.repair c text) := by
  rcases Rule.of_mem_checkKnownType hMem with ⟨hFix, hCase⟩ | ⟨t, k, ht, -, hCase, hFix⟩
  · have hUnknown := hCase o.type (by simp [hType])
    cases hDecided : c.type with
    | none =>
        have hText : i.repair c text = text := by
          simp [Issue.repair, hFix, Fix.apply, Choices.get, hDecided]
        have hSame : Header.repairedType c o.type = o.type := by
          simp [Header.repairedType, hUnknown, hDecided]
        rw [hText, hSame]
        exact h
    | some k =>
        have hText : i.repair c text = Fix.putType k text := by
          simp [Issue.repair, hFix, Fix.apply, Choices.get, hDecided]
        have hName : Header.repairedType c o.type = k.name := by
          simp [Header.repairedType, hUnknown, hDecided]
        rw [hText, hName]
        exact h.putType k
  · have hEq : t = o.type := by simpa [hType] using ht.symm
    subst hEq
    have hText : i.repair c text = Fix.lowercaseHead o.type text := by
      simp [Issue.repair, hFix, Fix.apply]
    have hLower : lower o.type = k.name := CommitType.ofName?_eq_some_iff.1 hCase
    have hName : Header.repairedType c o.type = k.name := by
      simp [Header.repairedType, hCase, hLower]
    rw [hText, hName]
    exact h.lowercaseHead hLower

theorem step_knownType (h : Follows c m done text) (hRule : i.rule = .knownType)
    (hFresh : selects done .knownType = false) (hMem : i ∈ Rule.checkKnownType m) :
    Follows c m (done ++ [i]) (i.repair c text) := by
  obtain ⟨o, hOpens, hParse⟩ := h
  obtain ⟨hType, hScope, hSeparated⟩ := parts_eq hOpens.sealed hParse
  have hKeep := selects_others hRule done
  have hOld : m.parts.type = some o.type := by simpa [Header.edited, hFresh] using hType
  have hNew := opens_repairedType (c := c) hOpens hOld hMem
  have hRepaired : (m.parts.edited c (done ++ [i])).type =
      some (Header.repairedType c o.type) := by
    simp [Header.edited, selects_own hRule, hOld]
  refine ⟨{ o with type := Header.repairedType c o.type }, ?_, ?_⟩
  · rw [editedBelow, hKeep .blankLine (by decide), ← editedBelow]
    exact hNew
  · rw [Header.parse_of_opening hNew.sealed.opening?]
    simp only [hSeparated, hScope, ← hRepaired]
    simp only [Header.edited, hKeep .colonPresent (by decide), hKeep .noFinalPeriod (by decide)]

theorem step_colonPresent (h : Follows c m done text) (hRule : i.rule = .colonPresent)
    (hFresh : selects done .colonPresent = false) (hMem : i ∈ Rule.checkColonPresent m) :
    Follows c m (done ++ [i]) (i.repair c text) := by
  obtain ⟨o, hOpens, hParse⟩ := h
  obtain ⟨hFix, -, hColon⟩ := Rule.of_mem_checkColonPresent hMem
  obtain ⟨hType, hScope, hSeparated⟩ := parts_eq hOpens.sealed hParse
  have hNo : (Header.separated o.rest).1 = false := by
    simp [hSeparated, Header.edited, hColon, hFresh]
  have hText : i.repair c text = mapFirstLine Fix.addColon text := by
    simp [Issue.repair, hFix, Fix.apply]
  have hKeep := selects_others hRule done
  refine ⟨{ o with rest := ':' :: ' ' :: trim o.rest }, ?_, ?_⟩
  · rw [hText, editedBelow, hKeep .blankLine (by decide), ← editedBelow]
    exact hOpens.addColon
  · rw [Header.parse_of_opening hOpens.addColon.sealed.opening?]
    simp only [Header.separated_addColon hNo, hSeparated, hScope, ← hType]
    simp only [Header.edited, selects_own hRule, hKeep .knownType (by decide),
      hKeep .noFinalPeriod (by decide), Bool.or_true]

theorem step_noFinalPeriod (h : Follows c m done text) (hRule : i.rule = .noFinalPeriod)
    (hFresh : selects done .noFinalPeriod = false) (hMem : i ∈ Rule.checkNoFinalPeriod m) :
    Follows c m (done ++ [i]) (i.repair c text) := by
  obtain ⟨o, hOpens, hParse⟩ := h
  obtain ⟨hFix, hLast⟩ := Rule.of_mem_checkNoFinalPeriod hMem
  obtain ⟨hType, hScope, hSeparated⟩ := parts_eq hOpens.sealed hParse
  obtain ⟨u, hSubject⟩ : ∃ u, m.parts.subject = some u := by
    cases hOpt : m.parts.subject with
    | none => simp [hOpt] at hLast
    | some u => exact ⟨u, rfl⟩
  rw [hSubject, Option.getD_some] at hLast
  have hSame : (m.parts.edited c done).subject = some u := by
    simp [Header.edited, hFresh, hSubject]
  rw [hSame] at hSeparated
  have hDrop := Header.separated_dropLast hSeparated
  have hEnd := Header.getLast?_of_separated hSeparated
  rw [hLast] at hEnd
  have hText : i.repair c text = mapFirstLine Fix.chopPeriod text := by
    simp [Issue.repair, hFix, Fix.apply]
  have hOpens' := hOpens.chopPeriod hEnd
  have hKeep := selects_others hRule done
  refine ⟨{ o with rest := (trimEnd o.rest).dropLast }, ?_, ?_⟩
  · rw [hText, editedBelow, hKeep .blankLine (by decide), ← editedBelow]
    exact hOpens'
  · rw [Header.parse_of_opening hOpens'.sealed.opening?]
    simp only [hDrop, hScope, ← hType]
    simp only [Header.edited, selects_own hRule, hSubject, if_true, Option.bind_some,
      hKeep .knownType (by decide), hKeep .colonPresent (by decide)]

theorem step_blankLine (h : Follows c m done text) (hRule : i.rule = .blankLine)
    (hFresh : selects done .blankLine = false) (hMem : i ∈ Rule.checkBlankLine m) :
    Follows c m (done ++ [i]) (i.repair c text) := by
  obtain ⟨o, hOpens, hParse⟩ := h
  obtain ⟨hFix, hCrowd⟩ := Rule.of_mem_checkBlankLine hMem
  obtain ⟨header, l, ls, hLines, hInk⟩ := Message.exists_of_crowdsHeader hCrowd
  have hText : i.repair c text = Fix.separateBody text := by
    simp [Issue.repair, hFix, Fix.apply]
  have hKeep := selects_others hRule done
  simp only [hLines, List.tail_cons, editedBelow, hFresh, Bool.false_eq_true, if_false] at hOpens
  refine ⟨o, ?_, ?_⟩
  · simp only [hText, hLines, List.tail_cons, editedBelow, selects_own hRule, if_true]
    exact hOpens.separateBody hInk
  · rw [hParse]
    simp only [Header.edited, hKeep .knownType (by decide), hKeep .colonPresent (by decide),
      hKeep .noFinalPeriod (by decide)]

/-- One issue more, of any rule but the one on long lines. -/
theorem step (h : Follows c m done text) (hShort : i.rule ≠ .lineLength) (hMem : i ∈ m.issues)
    (hFresh : selects done i.rule = false) : Follows c m (done ++ [i]) (i.repair c text) := by
  have hCheck := Message.mem_check_of_mem_issues hMem
  cases hRule : i.rule with
  | headerPresent => exact h.step_of_not_offersFix (by rw [hRule]; rfl) hCheck
  | scopeFormat => exact h.step_of_not_offersFix (by rw [hRule]; rfl) hCheck
  | subjectPresent => exact h.step_of_not_offersFix (by rw [hRule]; rfl) hCheck
  | headerLength => exact h.step_of_not_offersFix (by rw [hRule]; rfl) hCheck
  | knownType =>
      rw [hRule] at hCheck hFresh
      exact h.step_knownType hRule hFresh hCheck
  | colonPresent =>
      rw [hRule] at hCheck hFresh
      exact h.step_colonPresent hRule hFresh hCheck
  | noFinalPeriod =>
      rw [hRule] at hCheck hFresh
      exact h.step_noFinalPeriod hRule hFresh hCheck
  | blankLine =>
      rw [hRule] at hCheck hFresh
      exact h.step_blankLine hRule hFresh hCheck
  | lineLength => exact absurd hRule hShort

/-- Different issues that are not about long lines are of different rules. -/
theorem not_selects (hDone : ∀ j ∈ done, j ∈ m.issues) (hShort : i.rule ≠ .lineLength)
    (hMem : i ∈ m.issues) (hNew : i ∉ done) : selects done i.rule = false := by
  rw [selects, List.any_eq_false]
  intro j hj hEq
  have hSame : j.rule = i.rule := by simpa using hEq
  have hOther := Message.mem_check_of_mem_issues (hDone j hj)
  rw [hSame] at hOther
  have hij := Rule.eq_of_mem_check hShort (Message.mem_check_of_mem_issues hMem) hOther
  exact hNew (hij ▸ hj)

/-- Any number of different issues more. -/
theorem run {selection : List Issue} (h : Follows c m done text)
    (hShort : ∀ i ∈ selection, i.rule ≠ .lineLength)
    (hMem : ∀ i ∈ done ++ selection, i ∈ m.issues) (hNodup : (done ++ selection).Nodup) :
    Follows c m (done ++ selection) (repairAll c text selection) := by
  induction selection generalizing done text with
  | nil => simpa [repairAll] using h
  | cons i rest ih =>
      have hNew : i ∉ done := by
        intro hi
        rw [List.nodup_append] at hNodup
        exact hNodup.2.2 i hi i (by simp) rfl
      have hOne := hShort i (by simp)
      have hFresh : selects done i.rule = false :=
        not_selects (fun j hj => hMem j (by simp [hj])) hOne (hMem i (by simp)) hNew
      have hStep := h.step hOne (hMem i (by simp)) hFresh
      have hAssoc : done ++ i :: rest = done ++ [i] ++ rest := by simp
      rw [hAssoc] at hMem hNodup ⊢
      exact ih hStep (fun j hj => hShort j (by simp [hj])) hMem hNodup

end Follows

/-! ## Any selection, in any order -/

/-- The body depends on the lines below the header only. -/
theorem Message.bodyOf_cons (header header' : Text) (rest : List Text) :
    bodyOf (header :: rest) = bodyOf (header' :: rest) := by
  unfold bodyOf bodyStart?
  dsimp only
  cases throughBlank? rest with
  | none => simp
  | some n =>
      dsimp only
      split
      · simp
      · simp only [Option.bind_some, List.drop_succ_cons]

theorem Follows.empty {t : Text} {c : Choices}
    (hType : (Message.reading t).parts.type.isSome = true) :
    Follows c (Message.reading t) [] (trim t) := by
  obtain ⟨s, hType⟩ := Option.isSome_iff_exists.1 hType
  obtain ⟨o, -, hHeader, hOpens⟩ := Message.exists_opens hType
  have hBelow : editedBelow [] (Message.reading t).lines.tail =
      (Message.reading t).lines.tail := by simp [editedBelow, selects]
  refine ⟨o, ?_, ?_⟩
  · rw [hBelow]
    exact hOpens
  · rw [← hHeader]
    simp [Header.edited, selects, Message.reading]

/-- What is read off a repaired text. -/
theorem Follows.reading {t text : Text} {c : Choices} {selection : List Issue}
    (h : Follows c (Message.reading t) selection text) (hInk : blank t = false)
    (hMem : ∀ i ∈ selection, i ∈ (Message.reading t).issues) :
    ∃ m, Message.parse? text = some m ∧
      m.parts = (Message.reading t).parts.edited c selection ∧
      m.lines.tail = editedBelow selection (Message.reading t).lines.tail ∧
      ∃ header, m.body = Message.bodyOf (header :: m.lines.tail) := by
  obtain ⟨o, hOpens, hParse⟩ := h
  have hTidy := tidy_lines_trim hInk
  rw [Message.lines_trim] at hTidy
  -- the last line stays, also where an empty line has been put above it
  have hLast : editedBelow selection (Message.reading t).lines.tail ≠ [] →
      ∃ l ∈ (editedBelow selection (Message.reading t).lines.tail).getLast?,
        ∃ c ∈ l.getLast?, isBlank c = false := by
    intro hNe
    have hRest : (Message.reading t).lines.tail ≠ [] := by
      intro hNil
      rw [hNil, editedBelow] at hNe
      split at hNe
      · rename_i hSelects
        obtain ⟨i, hi, hRule⟩ := List.any_eq_true.1 hSelects
        have hCheck := Message.mem_check_of_mem_issues (hMem i hi)
        rw [beq_iff_eq.1 hRule] at hCheck
        obtain ⟨header, l, ls, hLines, -⟩ :=
          Message.exists_of_crowdsHeader (Rule.of_mem_checkBlankLine hCheck).2
        simp [hLines] at hNil
      · exact hNe rfl
    obtain ⟨l, hl, hInkLast⟩ := hTidy.lastInk_below hRest
    obtain ⟨k, ks, hCons⟩ := List.exists_cons_of_ne_nil hRest
    rw [hCons] at hl
    refine ⟨l, ?_, hInkLast⟩
    rw [editedBelow, hCons]
    split <;> simpa using hl
  obtain ⟨hParts, hRest⟩ := hOpens.reading hLast
  refine ⟨Message.reading text, Message.parse?_eq_reading hOpens.type_isNone_eq_false.1, ?_,
    hRest, ?_⟩
  · rw [hParts, hParse]
  · refine ⟨(Message.reading text).header, ?_⟩
    rw [← Message.lines_trim]
    rfl

theorem Message.rule_ne_lineLength {m : Message} {i : Issue}
    (hShort : ∀ l ∈ m.lines, l.length ≤ Rule.lineWarn) (hMem : i ∈ m.issues) :
    i.rule ≠ .lineLength := by
  intro hRule
  have hNil := Message.mem_check_of_mem_issues hMem
  rw [hRule, show Rule.check .lineLength m = Rule.checkLineLength m from rfl,
    Rule.checkLineLength_eq_nil hShort] at hNil
  simp at hNil

/--
**Repairing a selection**: with short lines and a type in the header, any
selection of different issues repairs to a message with exactly the selected
edits, whatever has been decided.  The character that leaves the subject is a
period, a known type stays, and another order of the same issues gives the same
parts, the same lines below the header and the same body.
-/
theorem parse?_repairAll_selection (t : Text) (m : Message) (c : Choices)
    (selection : List Issue) (hRead : Message.parse? t = some m)
    (hType : m.parts.type.isSome = true) (hShort : ∀ l ∈ m.lines, l.length ≤ Rule.lineWarn)
    (hMem : ∀ i ∈ selection, i ∈ lint t) (hNodup : selection.Nodup) :
    ∃ m', Message.parse? (repairAll c (trim t) selection) = some m' ∧
      m'.parts = m.parts.edited c selection ∧
      m'.lines.tail = editedBelow selection m.lines.tail ∧
      (selects selection .noFinalPeriod = true →
        (m.parts.subject.getD []).getLast? = some '.') ∧
      (∀ k : CommitType, m.parts.type = some k.name → m'.parts.type = some k.name) ∧
      ∀ other, other.Perm selection →
        ∃ m'', Message.parse? (repairAll c (trim t) other) = some m'' ∧
          m''.parts = m'.parts ∧ m''.lines.tail = m'.lines.tail ∧ m''.body = m'.body := by
  have hInk : blank t = false := by
    cases hBlank : blank t with
    | false => rfl
    | true =>
        rw [(Message.parse?_eq_none_iff t).2 hBlank] at hRead
        contradiction
  rw [Message.parse?_eq_reading hInk, Option.some_inj] at hRead
  subst hRead
  rw [lint_eq_issues hInk] at hMem
  -- one run for each order; the statement for it names the selected rules only
  have hRun : ∀ s : List Issue, s.Perm selection →
      ∃ m', Message.parse? (repairAll c (trim t) s) = some m' ∧
        m'.parts = (Message.reading t).parts.edited c s ∧
        m'.lines.tail = editedBelow s (Message.reading t).lines.tail ∧
        ∃ header, m'.body = Message.bodyOf (header :: m'.lines.tail) := by
    intro s hPerm
    have hSub : ∀ i ∈ s, i ∈ (Message.reading t).issues := fun i hi =>
      hMem i (hPerm.subset hi)
    have hFollows := (Follows.empty (c := c) hType).run
      (fun i hi => Message.rule_ne_lineLength hShort (hSub i hi)) hSub
      (hPerm.nodup_iff.2 hNodup)
    exact hFollows.reading hInk hSub
  obtain ⟨m', hm', hParts, hRest, header, hBody⟩ := hRun selection (List.Perm.refl _)
  refine ⟨m', hm', hParts, hRest, ?_, ?_, ?_⟩
  · intro hPeriod
    obtain ⟨i, hi, hRule⟩ := List.any_eq_true.1 hPeriod
    have hCheck := Message.mem_check_of_mem_issues (hMem i hi)
    rw [beq_iff_eq.1 hRule] at hCheck
    exact (Rule.of_mem_checkNoFinalPeriod hCheck).2
  · intro k hk
    have hNone : selects selection .knownType = false := by
      rw [selects, List.any_eq_false]
      intro i hi hRule
      have hCheck := Message.mem_check_of_mem_issues (hMem i hi)
      rw [beq_iff_eq.1 hRule] at hCheck
      have hKnown : Rule.checkKnownType (Message.reading t) = [] := by
        rw [Rule.checkKnownType, hk]
        simp
      have hNil : i ∈ Rule.checkKnownType (Message.reading t) := hCheck
      rw [hKnown] at hNil
      simp at hNil
    rw [hParts, Header.edited, hNone]
    exact hk
  · intro other hPerm
    obtain ⟨m'', hm'', hParts', hRest', header', hBody'⟩ := hRun other hPerm
    have hSame : ∀ r, selects other r = selects selection r := selects_perm hPerm
    have hEdited : (Message.reading t).parts.edited c other =
        (Message.reading t).parts.edited c selection := by
      simp only [Header.edited, hSame]
    have hBelow : editedBelow other (Message.reading t).lines.tail =
        editedBelow selection (Message.reading t).lines.tail := by
      simp only [editedBelow, hSame]
    refine ⟨m'', hm'', ?_, ?_, ?_⟩
    · rw [hParts', hParts, hEdited]
    · rw [hRest', hRest, hBelow]
    · rw [hBody', hBody, hRest', hRest, hBelow]
      exact Message.bodyOf_cons _ _ _

/-- Four fixes from right to left: blank line, period, colon and type. -/
theorem parse?_repairAll_reversed :
    let t : Text := "FEAT(ui) add. .\nbody".toList
    (lint t).length = 4 ∧
      ∃ m', Message.parse? (repairAll .undecided (trim t) (lint t).reverse) = some m' ∧
        m'.parts = ⟨some "feat".toList, some "ui".toList, true, some "add.".toList⟩ ∧
        m'.lines.tail = [[], "body".toList] := by
  intro t
  have hRead : Message.parse? t = some (Message.reading t) :=
    Message.parse?_eq_reading (by decide)
  obtain ⟨m', hm', hParts, hRest, -⟩ :=
    parse?_repairAll_selection t (Message.reading t) .undecided (lint t).reverse hRead
      (by decide) (by decide) (by simp) (by decide)
  exact ⟨by decide, m', hm', hParts.trans (by decide), hRest.trans (by decide)⟩

end CommitLint
