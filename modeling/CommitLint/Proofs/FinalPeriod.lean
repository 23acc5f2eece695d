import CommitLint.Proofs.Content
import CommitLint.Proofs.History
import CommitLint.Proofs.Selections

/-!
# Taking a final period off

R6 looks at the last character of the subject, which has been trimmed.  Its fix looks at
the header as it stands: it takes off one period, with the blank characters behind it.
Both mean the same character (`Header.getLast?_of_separated`), so what is left of the
subject is the subject without its last character, trimmed again.

One period is taken off and no more.  If another one stands before it, perhaps after
blank characters, R6 is there again, and the fix may be asked for again.

A header that is a period and nothing else is left out here: the fix leaves nothing of it,
and the next line takes its place.

Main result: `Session.applyIssue_final_period`.
-/

namespace CommitLint

open Text

namespace Message

variable {t u : Text} {i : Issue} {c : Choices}

theorem exists_subject_of_noFinalPeriod (hi : i ∈ (reading t).issues)
    (hRule : i.rule = .noFinalPeriod) :
    i.fix = some .dropPeriod ∧ ∃ u, (reading t).parts.subject = some (u ++ ['.']) := by
  have hCheck := mem_check_of_mem_issues hi
  rw [hRule] at hCheck
  obtain ⟨hFix, hLast⟩ := Rule.of_mem_checkNoFinalPeriod hCheck
  refine ⟨hFix, ?_⟩
  cases hSubject : (reading t).parts.subject with
  | none => simp [hSubject] at hLast
  | some v =>
      rw [hSubject, Option.getD_some] at hLast
      obtain ⟨u, rfl⟩ := List.getLast?_eq_some_iff.1 hLast
      exact ⟨u, rfl⟩

/-- A header without a type is all subject, so the period is the last character of the
header itself. -/
theorem chopPeriod_of_untyped (hInk : blank t = false)
    (hType : (reading t).parts.type = none)
    (hSubject : (reading t).parts.subject = some (u ++ ['.'])) :
    trimEnd (reading t).header = u ++ ['.'] ∧ Fix.chopPeriod (reading t).header = u := by
  have hOpening : Header.opening? (reading t).header = none := by
    rwa [parts_reading, Header.type_parse, Option.map_eq_none_iff] at hType
  have hStart : trimStart (reading t).header = (reading t).header :=
    trimStart_of_head (head?_of_exists (head?_header hInk))
  have hEnd : trimEnd (reading t).header = u ++ ['.'] := by
    rw [parts_reading] at hSubject
    rw [show firstLine (trim t) = (reading t).header from rfl,
      Header.parse_of_no_opening hOpening, nonempty?_eq_some_iff, trim, hStart] at hSubject
    exact hSubject.1
  refine ⟨hEnd, ?_⟩
  simp [Fix.chopPeriod, hEnd]

/-- Such a header without its period begins as it did, unless nothing is left. -/
theorem parse?_dropPeriod_of_untyped (hInk : blank t = false)
    (hType : (reading t).parts.type = none)
    (hSubject : (reading t).parts.subject = some (u ++ ['.'])) (hNe : u ≠ []) :
    ∃ m, parse? (mapFirstLine Fix.chopPeriod (trim t)) = some m ∧
      m.parts = ⟨none, none, false, nonempty? (trim u)⟩ ∧
      m.lines.tail = (reading t).lines.tail := by
  obtain ⟨hEnd, hChop⟩ := chopPeriod_of_untyped hInk hType hSubject
  have hTidy := tidy_lines_trim hInk
  rw [lines_trim] at hTidy
  have hText : mapFirstLine Fix.chopPeriod (trim t) = unlines (u :: (reading t).lines.tail) := by
    rw [trim_eq_unlines, mapFirstLine_unlines _ hTidy.noFeed, hChop]
  have hPrefix : u <+: (reading t).header :=
    (List.prefix_append u ['.']).trans (hEnd ▸ trimEnd_isPrefix _)
  obtain ⟨d, ds, rfl⟩ := List.exists_cons_of_ne_nil hNe
  have hHead : d ∈ (reading t).header.head? := mem_head?_of_isPrefix hPrefix rfl
  obtain ⟨e, he, hInkHead⟩ := head?_header hInk
  obtain rfl : d = e := Option.some.inj ((Option.mem_def.1 hHead).symm.trans he)
  have hFeed : ∀ l ∈ (d :: ds) :: (reading t).lines.tail, '\n' ∉ l := by
    intro l hl
    rcases List.mem_cons.1 hl with rfl | hl
    · exact fun hMem => hTidy.noFeed _ (by simp) (hPrefix.subset hMem)
    · exact hTidy.noFeed l (by simp [hl])
  have hLines := lines_trim_unlines hFeed ⟨d, rfl, hInkHead⟩ hTidy.lastInk_below
  have hInk' : blank (unlines ((d :: ds) :: (reading t).lines.tail)) = false :=
    not_blank_of_mem (List.mem_of_mem_head? (mem_head?_unlines rfl _)) hInkHead
  have hLetter : isLetter d = false := by
    rw [parts_reading, Header.type_parse, Option.map_eq_none_iff,
      Header.opening?_eq_none_iff] at hType
    exact hType d hHead
  have hOpening : Header.opening? (d :: ds) = none := by
    rw [Header.opening?_eq_none_iff]
    simpa using hLetter
  rw [hText]
  refine ⟨_, parse?_eq_reading hInk', ?_, ?_⟩
  · rw [reading_of_lines hLines]
    split
    · rw [Header.parse_trimEnd, Header.parse_of_no_opening hOpening]
    · rw [Header.parse_of_no_opening hOpening]
  · rw [reading_of_lines hLines, List.tail_cons]

/-- **One period less**: the fix for R6 takes the last character off the subject, and
what is left is trimmed. -/
theorem parse?_repair_noFinalPeriod (c : Choices) (hInk : blank t = false)
    (hi : i ∈ (reading t).issues) (hRule : i.rule = .noFinalPeriod)
    (hSubject : (reading t).parts.subject = some (u ++ ['.']))
    (hHeader : ink (reading t).header ≠ ['.']) :
    ∃ m, parse? (i.repair c (trim t)) = some m ∧
      m.parts = { (reading t).parts with subject := nonempty? (trim u) } ∧
      m.lines.tail = (reading t).lines.tail := by
  cases hType : (reading t).parts.type with
  | none =>
      have hNe : u ≠ [] := by
        rintro rfl
        obtain ⟨hEnd, -⟩ := chopPeriod_of_untyped hInk hType hSubject
        apply hHeader
        rw [← ink_trimEnd, hEnd]
        rfl
      obtain ⟨m, hRead, hParts, hTail⟩ := parse?_dropPeriod_of_untyped hInk hType hSubject hNe
      have hText : i.repair c (trim t) = mapFirstLine Fix.chopPeriod (trim t) := by
        rw [Issue.repair, (exists_subject_of_noFinalPeriod hi hRule).1]
        rfl
      have hOwn : (reading t).parts = ⟨none, none, false, some (u ++ ['.'])⟩ := by
        have hOpening : Header.opening? (firstLine (trim t)) = none := by
          rwa [parts_reading, Header.type_parse, Option.map_eq_none_iff] at hType
        have hAll := Header.parse_of_no_opening hOpening
        rw [← parts_reading] at hAll
        rw [hAll] at hSubject ⊢
        rw [← hSubject]
      rw [hText, hOwn]
      exact ⟨m, hRead, hParts, hTail⟩
  | some found =>
      have hStart : Follows c (reading t) [] (trim t) := Follows.empty (by rw [hType]; rfl)
      have hCheck := mem_check_of_mem_issues hi
      rw [hRule] at hCheck
      have hFollows := hStart.step_noFinalPeriod hRule rfl hCheck
      obtain ⟨m, hRead, hParts, hTail, -⟩ := hFollows.reading hInk (by simpa using hi)
      refine ⟨m, hRead, ?_, ?_⟩
      · rw [hParts]
        simp [Header.edited, selects, hRule, hSubject, Header.shortenedSubject]
      · rw [hTail]
        simp [editedBelow, selects, hRule]

/-- R6 is found where the subject ends in a period. -/
theorem selects_noFinalPeriod_iff {s : Text} {m : Message} (hRead : parse? s = some m) :
    selects (lint s) .noFinalPeriod = true ↔ (m.parts.subject.getD []).getLast? = some '.' := by
  obtain ⟨hInk, rfl⟩ := parse?_eq_some_iff.1 hRead
  rw [lint_eq_issues hInk, selects_noFinalPeriod, endsInPeriod, beq_iff_eq]

end Message

namespace Session

/--
**Repairing R6** in any session that actions lead to, unless the header is a period and
nothing else: the final period leaves the subject, which is trimmed again; the type, the
scope, the colon and the lines below the header stay.  R6 is gone exactly if what stood
before the period does not end in a period itself, blank characters aside.
-/
theorem applyIssue_final_period (actions : List Action) (n : Int) (i : Issue)
    (hIssue : (run actions).issueAt? n = some i) (hRule : i.rule = .noFinalPeriod)
    (hHeader : ink (firstLine (run actions).current) ≠ ['.']) :
    let s := run actions
    let s' := s.applyIssue i
    s.act (.applyIssue n) = .ok s' ∧
      ∃ m m' u, Message.parse? s.current = some m ∧ Message.parse? s'.current = some m' ∧
        m.parts.subject = some (u ++ ['.']) ∧
        m'.parts = { m.parts with subject := nonempty? (trim u) } ∧
        m'.lines.tail = m.lines.tail ∧
        (selects s'.issues .noFinalPeriod = true ↔ (trim u).getLast? = some '.') := by
  intro s s'
  have hAccount := account_run actions
  have hMem : i ∈ s.issues := mem_of_issueAt? hIssue
  obtain ⟨hInk, hIssues⟩ := hAccount.issues_eq_reading hMem (by rintro rfl; cases hRule)
  rw [hIssues] at hMem
  obtain ⟨-, u, hSubject⟩ := Message.exists_subject_of_noFinalPeriod hMem hRule
  have hOwn : ink (Message.reading s.current).header ≠ ['.'] := by
    show ink (firstLine (trim s.current)) ≠ ['.']
    rwa [hAccount.trimmed]
  obtain ⟨m, hRead, hParts, hTail⟩ :=
    Message.parse?_repair_noFinalPeriod s.choices hInk hMem hRule hSubject hOwn
  rw [hAccount.trimmed] at hRead
  have hFound := Message.selects_noFinalPeriod_iff hRead
  rw [hParts, getD_nonempty?, ← issues_applyIssue] at hFound
  obtain ⟨hInk', rfl⟩ := Message.parse?_eq_some_iff.1 hRead
  refine ⟨act_applyIssue hIssue, _, Message.reading s'.current, u,
    Message.parse?_eq_reading hInk, Message.parse?_eq_reading ?_, hSubject, ?_, ?_, hFound⟩
  · rw [current_applyIssue, blank_trim]
    exact hInk'
  · rw [current_applyIssue, Message.reading_trim]
    exact hParts
  · rw [current_applyIssue, Message.reading_trim]
    exact hTail

/-- Of two periods with a space between them the last one goes, and R6 stays; the next
repair settles it. -/
theorem applyIssue_final_period_of_two :
    let i : Issue :=
      ⟨.noFinalPeriod, .warning, "Subject should not end with a period".toList,
        some .dropPeriod⟩
    let s := run [.update "feat: a. .\n\nb.".toList]
    s.issueAt? 0 = some i ∧ (s.applyIssue i).current = "feat: a. \n\nb.".toList ∧
      selects (s.applyIssue i).issues .noFinalPeriod = true ∧
      ((s.applyIssue i).applyIssue i).issues = [] := by
  intro i s
  have hIssue : s.issueAt? 0 = some i := by decide +kernel
  obtain ⟨-, m, m', u, hRead, -, hSubject, -, -, hFound⟩ :=
    applyIssue_final_period [.update "feat: a. .\n\nb.".toList] 0 i hIssue rfl (by decide +kernel)
  have hOwn : m.parts.subject = some "a. .".toList := by
    obtain ⟨-, rfl⟩ := Message.parse?_eq_some_iff.1 hRead
    decide +kernel
  obtain rfl : u = "a. ".toList := by
    have hSame : u ++ ['.'] = "a. ".toList ++ ['.'] := Option.some.inj (hSubject.symm.trans hOwn)
    exact List.append_cancel_right hSame
  exact ⟨hIssue, by decide +kernel, hFound.2 (by decide), by decide +kernel⟩

/-- So one repair does not settle R6 in general. -/
theorem not_forall_applyIssue_settles_final_period :
    ¬ ∀ (actions : List Action) (n : Int) (i : Issue),
      (run actions).issueAt? n = some i → i.rule = .noFinalPeriod →
        ∃ s', (run actions).act (.applyIssue n) = .ok s' ∧
          selects s'.issues .noFinalPeriod = false := by
  intro hAll
  have hIssue : (run [.update "feat: a..".toList]).issueAt? 0 =
      some ⟨.noFinalPeriod, .warning, "Subject should not end with a period".toList,
        some .dropPeriod⟩ := by
    decide +kernel
  obtain ⟨s', hAct, hNone⟩ := hAll _ 0 _ hIssue rfl
  rw [act_applyIssue hIssue, Except.ok.injEq] at hAct
  rw [← hAct] at hNone
  exact absurd hNone (by decide +kernel)

end Session

end CommitLint
