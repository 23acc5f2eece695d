import CommitLint.Proofs.History
import CommitLint.Proofs.Reflow
import CommitLint.Proofs.TightLayout

/-!
# Wrapping one long line

A session can repair one of its issues and leave the others.  For a line that is
too long this means that the line is wrapped where it stands, and nothing else is
done to the text (`lines_wrapLineAt`).  The text is trimmed and linted again; what
is found then about long lines is followed here from what was found before:

* the lines above keep their issues;
* of the lines that the wrapped one is cut into, those have one that are a single
  word;
* the lines below keep theirs, moved down by the lines that have been added
  (`forall₂_moved_longLines`).

Main result: `applyIssue_lineLength`.
-/

namespace CommitLint

open Text

/-! ## Issues about long lines -/

/-- The issue is about a line above the one of an index. -/
def Issue.isAbove (k : Nat) (i : Issue) : Bool := i.lineIndex?.any (· < k)

/-- The issue is about a line below the one of an index. -/
def Issue.isBelow (k : Nat) (i : Issue) : Bool := i.lineIndex?.any (k < ·)

/-- Two issues say the same of two lines, the second of which stands a number of
lines further down. -/
def Issue.Moved (n : Nat) (i j : Issue) : Prop :=
  ∃ severity limit index length, i = Rule.longLine severity limit index length ∧
    j = Rule.longLine severity limit (index + n) length

namespace Rule

/-- The issue of a line that is known to be too long. -/
def excess (index : Nat) (line : Text) : Issue :=
  if line.length > lineMax then longLine .error lineMax index line.length
  else longLine .warning lineWarn index line.length

theorem longLine?_of_long {line : Text} (hLong : lineWarn < line.length) (index : Nat) :
    longLine? index line = some (excess index line) := by
  unfold longLine? excess
  by_cases hError : line.length > lineMax
  · simp [hError]
  · simp [hError, hLong]

theorem moved_excess (n index : Nat) (line : Text) :
    (excess index line).Moved n (excess (index + n) line) := by
  unfold excess
  by_cases hError : line.length > lineMax
  · rw [if_pos hError, if_pos hError]
    exact ⟨_, _, _, _, rfl, rfl⟩
  · rw [if_neg hError, if_neg hError]
    exact ⟨_, _, _, _, rfl, rfl⟩

/-- The lines that are too long have an issue each. -/
theorem longLines_eq (first : Nat) (ls : List Text) :
    longLines first ls =
      ((ls.zipIdx first).filter fun p => lineWarn < p.1.length).map fun p => excess p.2 p.1 := by
  induction ls generalizing first with
  | nil => rfl
  | cons l ls ih =>
      rw [longLines, ih, List.zipIdx_cons, List.filter_cons]
      by_cases hLong : lineWarn < l.length
      · rw [longLine?_of_long hLong]
        simp [hLong]
      · rw [(longLine?_eq_none_iff first l).2 (Nat.le_of_not_lt hLong)]
        simp [hLong]

theorem longLines_append (first : Nat) (ks ls : List Text) :
    longLines first (ks ++ ls) = longLines first ks ++ longLines (first + ks.length) ls := by
  rw [longLines_eq, longLines_eq, longLines_eq, List.zipIdx_append, List.filter_append,
    List.map_append]

/-- Lines that move down keep their issues. -/
theorem forall₂_moved_longLines (first n : Nat) (ls : List Text) :
    List.Forall₂ (Issue.Moved n) (longLines first ls) (longLines (first + n) ls) := by
  induction ls generalizing first with
  | nil => exact .nil
  | cons l ls ih =>
      have hRest := ih (first + 1)
      rw [Nat.add_right_comm] at hRest
      rw [longLines, longLines]
      by_cases hLong : lineWarn < l.length
      · rw [longLine?_of_long hLong, longLine?_of_long hLong]
        exact .cons (moved_excess n first l) hRest
      · have hShort := Nat.le_of_not_lt hLong
        rw [(longLine?_eq_none_iff _ l).2 hShort, (longLine?_eq_none_iff _ l).2 hShort]
        exact hRest

theorem lineIndex?_of_mem_longLines {first : Nat} {ls : List Text} {i : Issue}
    (h : i ∈ longLines first ls) :
    ∃ k, i.lineIndex? = some k ∧ first ≤ k ∧ k < first + ls.length := by
  obtain ⟨n, l, hLine, hi⟩ := of_mem_longLines h
  obtain ⟨hBound, -⟩ := List.getElem?_eq_some_iff.1 hLine
  refine ⟨first + n, ?_, by omega, by omega⟩
  rw [Issue.lineIndex?, (of_mem_longLine? hi).2]
  rfl

theorem longLines_take_append_drop (k : Nat) (ls : List Text) :
    longLines 0 (ls.take k) ++ longLines k (ls.drop k) = longLines 0 ls := by
  by_cases hBound : k ≤ ls.length
  · have hLength : 0 + (ls.take k).length = k := by
      rw [List.length_take]
      omega
    have hAll := longLines_append 0 (ls.take k) (ls.drop k)
    rwa [List.take_append_drop, hLength, eq_comm] at hAll
  · rw [List.take_of_length_le (by omega), List.drop_of_length_le (by omega)]
    exact List.append_nil _

/-- What is found above an index. -/
theorem filter_isAbove_longLines (k : Nat) (ls : List Text) :
    (longLines 0 ls).filter (·.isAbove k) = longLines 0 (ls.take k) := by
  have hFront : (longLines 0 (ls.take k)).filter (·.isAbove k) = longLines 0 (ls.take k) := by
    rw [List.filter_eq_self]
    intro i hi
    obtain ⟨j, hIndex, -, hBound⟩ := lineIndex?_of_mem_longLines hi
    rw [List.length_take] at hBound
    rw [Issue.isAbove, hIndex, Option.any_some, decide_eq_true_eq]
    omega
  have hBack : (longLines k (ls.drop k)).filter (·.isAbove k) = [] := by
    rw [List.filter_eq_nil_iff]
    intro i hi
    obtain ⟨j, hIndex, hBound, -⟩ := lineIndex?_of_mem_longLines hi
    rw [Issue.isAbove, hIndex, Option.any_some, decide_eq_true_eq]
    omega
  rw [← longLines_take_append_drop k ls, List.filter_append, hFront, hBack, List.append_nil]

/-- What is found below an index. -/
theorem filter_isBelow_longLines (k : Nat) (ls : List Text) :
    (longLines 0 ls).filter (·.isBelow k) = longLines (k + 1) (ls.drop (k + 1)) := by
  have hFront : (longLines 0 (ls.take (k + 1))).filter (·.isBelow k) = [] := by
    rw [List.filter_eq_nil_iff]
    intro i hi
    obtain ⟨j, hIndex, -, hBound⟩ := lineIndex?_of_mem_longLines hi
    rw [List.length_take] at hBound
    rw [Issue.isBelow, hIndex, Option.any_some, decide_eq_true_eq]
    omega
  have hBack : (longLines (k + 1) (ls.drop (k + 1))).filter (·.isBelow k) =
      longLines (k + 1) (ls.drop (k + 1)) := by
    rw [List.filter_eq_self]
    intro i hi
    obtain ⟨j, hIndex, hBound, -⟩ := lineIndex?_of_mem_longLines hi
    rw [Issue.isBelow, hIndex, Option.any_some, decide_eq_true_eq]
    omega
  rw [← longLines_take_append_drop (k + 1) ls, List.filter_append, hFront, hBack,
    List.nil_append]

/-- Of the lines of a wrapped text those are too long that are one long word. -/
theorem longLines_wrap (first : Nat) (t : Text) :
    longLines first (lines (Wrap.wrap Fix.wrapWidth t)) =
      (((lines (Wrap.wrap Fix.wrapWidth t)).zipIdx first).filter fun p =>
        words p.1 == [p.1] && lineWarn < p.1.length).map fun p => excess p.2 p.1 := by
  rw [longLines_eq]
  congr 1
  apply List.filter_congr
  intro p hp
  by_cases hLong : lineWarn < p.1.length
  · have hNe : p.1 ≠ [] := by
      intro hNil
      rw [hNil] at hLong
      exact absurd hLong (by decide)
    have hWide : Fix.wrapWidth < (p.1.length : Int) := by
      unfold lineWarn at hLong
      unfold Fix.wrapWidth
      omega
    have hWord := Wrap.words_of_long_line (List.fst_mem_of_mem_zipIdx hp) hNe hWide
    simp [hLong, hWord]
  · simp [hLong]

end Rule

/-! ## Repairing the issue -/

/-- What linting finds about long lines. -/
theorem reports_lineLength {t : Text} (hInk : blank t = false) :
    reports (lint t) .lineLength = Rule.longLines 0 (lines (trim t)) := by
  rw [lint_eq_issues hInk, Message.reports_issues]
  rfl

/-- The pieces of a wrapped line take its place, and nothing is left to trim. -/
theorem lines_trim_wrapLineAt {t l : Text} {k : Nat} (hTrim : trim t = t) (hInk : blank t = false)
    (hLine : (lines t)[k]? = some l) :
    lines (trim (Fix.wrapLineAt k t)) =
      (lines t).take k ++ (lines (Wrap.wrap Fix.wrapWidth l) ++ (lines t).drop (k + 1)) := by
  have hTidy : Tidy (lines (Fix.wrapLineAt k t)) := by
    apply tidy_wrapLineAt
    rw [← hTrim]
    exact tidy_lines_trim hInk
  have hSame := hTidy.trim_unlines
  rw [unlines_lines] at hSame
  rw [hSame, lines_wrapLineAt, rewrapAt_of_getElem? hLine]

/-- What is found about long lines after one of them has been wrapped. -/
theorem reports_wrapLineAt {t l : Text} {k : Nat} (hTrim : trim t = t) (hInk : blank t = false)
    (hLine : (lines t)[k]? = some l) :
    let pieces := lines (Wrap.wrap Fix.wrapWidth l)
    reports (lint (Fix.wrapLineAt k t)) .lineLength =
      (reports (lint t) .lineLength).filter (·.isAbove k) ++ (Rule.longLines k pieces ++
        Rule.longLines (k + pieces.length) ((lines t).drop (k + 1))) := by
  intro pieces
  obtain ⟨hBound, -⟩ := List.getElem?_eq_some_iff.1 hLine
  have hLength : ((lines t).take k).length = k := by
    rw [List.length_take]
    omega
  have hInkNew : blank (Fix.wrapLineAt k t) = false := by
    rw [blank_wrapLineAt]
    exact hInk
  rw [reports_lineLength hInkNew, lines_trim_wrapLineAt hTrim hInk hLine,
    Rule.longLines_append, Rule.longLines_append, hLength, Nat.zero_add,
    reports_lineLength hInk, hTrim, Rule.filter_isAbove_longLines]

namespace Session

/--
**Wrapping one long line** does that and nothing else: in every session that
actions lead to, an issue about a long line asks for a line of the text to be
wrapped, and repairing it puts the lines of the wrapped one in its place.  Of the
issues about long lines, those of the lines above stay; those of the lines below
say the same of lines that have moved down; and between them there is one for
every line of the wrapped one that is a single word of more than 75 characters.
-/
theorem applyIssue_lineLength (actions : List Action) (n : Int) (i : Issue)
    (hIssue : (run actions).issueAt? n = some i) (hRule : i.rule = .lineLength) :
    let s := run actions
    let s' := s.applyIssue i
    s.act (.applyIssue n) = .ok s' ∧
      ∃ k l, i.fix = some (.wrapLine k) ∧ (lines s.current)[k]? = some l ∧
        let pieces := lines (Wrap.wrap 72 l)
        lines s'.current =
            (lines s.current).take k ++ pieces ++ (lines s.current).drop (k + 1) ∧
          ∃ below,
            reports s'.issues .lineLength =
              (reports s.issues .lineLength).filter (·.isAbove k) ++
                (((pieces.zipIdx k).filter fun p => words p.1 == [p.1] && 75 < p.1.length).map
                  fun p => Rule.excess p.2 p.1) ++ below ∧
            List.Forall₂ (Issue.Moved (pieces.length - 1))
              ((reports s.issues .lineLength).filter (·.isBelow k)) below := by
  intro s s'
  have hAccount := account_run actions
  have hMem : i ∈ s.issues := mem_of_issueAt? hIssue
  have hOther : i ≠ ⟨.headerPresent, .error, Message.emptyError, none⟩ := by
    rintro rfl
    cases hRule
  obtain ⟨hInk, hIssues⟩ := hAccount.issues_eq_reading hMem hOther
  have hLinted : s.issues = lint s.current := hIssues.trans (lint_eq_issues hInk).symm
  rw [hIssues] at hMem
  have hCheck := Message.mem_check_of_mem_issues hMem
  rw [hRule] at hCheck
  obtain ⟨k, l, hLine, -, hFix⟩ := Rule.of_mem_checkLineLength hCheck
  have hLines : (Message.reading s.current).lines = lines s.current := by
    rw [Message.reading, hAccount.trimmed]
  rw [hLines] at hLine
  have hText : i.repair s.choices s.current = Fix.wrapLineAt k s.current := by
    rw [Issue.repair, hFix]
    rfl
  refine ⟨act_applyIssue hIssue, k, l, hFix, hLine, ?_⟩
  intro pieces
  constructor
  · rw [current_applyIssue, hText, lines_trim_wrapLineAt hAccount.trimmed hInk hLine,
      List.append_assoc]
    rfl
  · refine ⟨Rule.longLines (k + pieces.length) ((lines s.current).drop (k + 1)), ?_, ?_⟩
    · rw [issues_applyIssue, hText, reports_wrapLineAt hAccount.trimmed hInk hLine,
        Rule.longLines_wrap, hLinted, ← List.append_assoc]
      rfl
    · have hSome : 0 < pieces.length := List.length_pos_iff.2 (lines_ne_nil _)
      have hPlace : k + 1 + (pieces.length - 1) = k + pieces.length := by omega
      have hMoved := Rule.forall₂_moved_longLines (k + 1) (pieces.length - 1)
        ((lines s.current).drop (k + 1))
      rw [hPlace] at hMoved
      rw [hLinted, reports_lineLength hInk, hAccount.trimmed, Rule.filter_isBelow_longLines]
      exact hMoved

/-- A long word stays too long on a line of its own, and the long line below it has
moved down. -/
theorem applyIssue_lineLength_long_word :
    let word : Text := List.replicate 80 'x'
    let line : Text := Wrap.joined (List.replicate 20 "word".toList)
    let s := run [.update (unlines ["feat: add".toList, [], "see ".toList ++ word, line])]
    let i := Rule.longLine .warning 75 2 84
    s.issueAt? 0 = some i ∧ i.rule = .lineLength ∧
      s.act (.applyIssue 0) = .ok (s.applyIssue i) ∧
      lines (s.applyIssue i).current = ["feat: add".toList, [], "see".toList, word, line] ∧
      ∃ below, reports (s.applyIssue i).issues .lineLength =
          Rule.longLine .warning 75 3 80 :: below ∧
        List.Forall₂ (Issue.Moved 1) [Rule.longLine .warning 75 3 99] below := by
  intro word line s i
  have hIssue : s.issueAt? 0 = some i := by decide +kernel
  obtain ⟨hAct, k, l, hFix, hLine, hLines, below, hReports, hBelow⟩ :=
    applyIssue_lineLength _ 0 i hIssue rfl
  obtain rfl : 2 = k := Fix.wrapLine.inj (Option.some.inj hFix)
  have hFound : (lines s.current)[2]? = some ("see ".toList ++ word) := by decide +kernel
  obtain rfl : "see ".toList ++ word = l := Option.some.inj (hFound.symm.trans hLine)
  have hPieces : lines (Wrap.wrap 72 ("see ".toList ++ word)) = ["see".toList, word] := by
    decide +kernel
  have hReported : reports s.issues .lineLength = [i, Rule.longLine .warning 75 3 99] := by
    decide +kernel
  rw [hPieces] at hLines hReports hBelow
  rw [hReported] at hReports hBelow
  refine ⟨hIssue, rfl, hAct, hLines.trans (by decide +kernel), below, ?_, hBelow⟩
  rw [hReports]
  rfl

end Session

end CommitLint
