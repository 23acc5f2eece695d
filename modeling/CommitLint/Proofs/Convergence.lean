import CommitLint.Proofs.Content
import CommitLint.Proofs.Settling
import CommitLint.Session

/-!
# Repairing again and again

One pass of repairs can call for another: wrapping a header crowds it, cutting a
scope in two leaves a header without a colon, and of two final periods only one
goes at a time.  Still no sequence of passes goes on for ever.

`disorder` weighs what a pass can still do to a text: its periods, how far its
header is from settled, the blank space within its lines, and whether the header
is crowded.  A fix that takes something away makes room for the fixes that are
weighed below it: dropping a period may unsettle the header, and putting in a
colon adds a space.  `disorder_pass` says that a pass lowers the weight or
leaves the text alone, and in the second case only fixes without effect are
asked for.

Main results: `disorder_pass`, `Session.Fresh.exists_atRest`.
-/

namespace CommitLint

open Text

/-- The text that one pass of repairs without a decision leads to. -/
def pass (t : Text) : Text := trim (fixAll .undecided t)

/-- The weight of what a pass can still do. -/
def disorder (t : Text) : Nat :=
  32 * t.count '.' + 4 * Header.unsettled (firstLine t) + 2 * gaps t +
    (if Message.crowdsHeader (lines t) then 1 else 0)

/-- All that is asked for is a decision, or to wrap a line that is one long
word. -/
def Settled (t : Text) : Prop :=
  ∀ i ∈ lint t, ∀ f, i.fix = some f → f = .choose .type ∨
    ∃ k l, f = .wrapLine k ∧ (lines t)[k]? = some l ∧ Rule.lineWarn < l.length ∧ Solid l

/-! ## The header and the text of a pass -/

variable {t : Text}

theorem pass_eq (hInk : blank t = false) :
    pass t = trim (wrapAll (unlines ((Message.reading t).mended :: (Message.reading t).below))
      (Message.reading t).long) := by
  rw [pass, fixAll, Message.normalize, lint_trim, lint_eq_issues hInk, repairAll_undecided]

theorem head?_separated (hInk : blank t = false) :
    ∃ c ∈ (Message.reading t).separated.head?, isBlank c = false := by
  cases hOpening : Header.opening? (firstLine (trim t)) with
  | none =>
      rw [Message.separated_of_no_opening hOpening]
      exact Message.head?_header hInk
  | some o =>
      have hNew := Message.opens_separated hOpening
      obtain ⟨c, hc, hLetter⟩ := hNew.head?_header
      rw [hNew.text_eq, unlines_singleton]
      exact ⟨c, hc, Header.isBlank_eq_false_of_isLetter hLetter⟩

/-! ## Periods -/

theorem count_letters {T : Text} (hLetters : ∀ c ∈ T, isLetter c = true) : T.count '.' = 0 := by
  rw [List.count_eq_zero]
  intro hMem
  exact absurd (hLetters _ hMem) (by decide)

theorem count_separated (t : Text) :
    (Message.reading t).separated.count '.' = (Message.reading t).header.count '.' := by
  cases hOpening : Header.opening? (firstLine (trim t)) with
  | none => rw [Message.separated_of_no_opening hOpening]
  | some o =>
      have hOld := Message.opens_header hOpening
      have hNew := Message.opens_separated hOpening
      have hRest : ((Message.reading t).reopened o).rest.count '.' = o.rest.count '.' := by
        rw [Message.reopened]
        dsimp only
        split
        · have hTrim : (trim o.rest).count '.' = o.rest.count '.' := by
            rw [← count_ink isBlank_period, ink_trim, count_ink isBlank_period]
          simp [hTrim]
        · rfl
      rw [hOld.text_eq, hNew.text_eq, unlines_singleton, unlines_singleton]
      simp only [Header.Opening.toText, List.count_append, hRest,
        count_letters hOld.sealed.letters, count_letters hNew.sealed.letters]
      rfl

theorem count_mended (t : Text) :
    (Message.reading t).mended.count '.' + (if (Message.reading t).endsInPeriod then 1 else 0) =
      (Message.reading t).header.count '.' := by
  rw [← count_separated, ← count_ink isBlank_period (Message.reading t).mended,
    Message.ink_mended]
  split
  · rename_i hPeriod
    obtain ⟨s, hs⟩ :=
      List.getLast?_eq_some_iff.1 (Message.getLast?_ink_of_endsInPeriod hPeriod).2
    rw [← count_ink isBlank_period (Message.reading t).separated, hs]
    simp
  · rw [count_ink isBlank_period, Nat.add_zero]

/-- A pass loses the period that it drops. -/
theorem count_pass (hInk : blank t = false) :
    (pass t).count '.' + (if (Message.reading t).endsInPeriod then 1 else 0) =
      (trim t).count '.' := by
  have hPass : ink (pass t) =
      ink (Message.reading t).mended ++ (Message.reading t).lines.tail.flatMap ink := by
    rw [pass, ink_trim, fixAll, Message.normalize, lint_trim, lint_eq_issues hInk, ink_repairAll]
  have hMended := count_mended t
  rw [← count_ink isBlank_period (pass t), hPass, ← count_ink isBlank_period (trim t),
    Message.trim_eq_unlines t, ink_unlines, List.flatMap_cons, List.count_append,
    List.count_append, count_ink isBlank_period, count_ink isBlank_period]
  omega

/-! ## Gaps -/

theorem gaps_le_of_isPrefix {s t : Text} (h : s <+: t) : gaps s ≤ gaps t := by
  obtain ⟨r, rfl⟩ := h
  rw [gaps_append]
  exact Nat.le_add_right _ _

theorem gaps_letters {T : Text} (hLetters : ∀ c ∈ T, isLetter c = true) : gaps T = 0 :=
  gaps_of_solid fun c hc => Header.isBlank_eq_false_of_isLetter (hLetters c hc)

/-- Only putting in a colon adds a gap. -/
theorem gaps_mended_le (t : Text) :
    gaps (Message.reading t).mended ≤
      gaps (Message.reading t).header + (if (Message.reading t).lacksColon then 1 else 0) := by
  have hMended : gaps (Message.reading t).mended ≤ gaps (Message.reading t).separated := by
    rw [Message.mended]
    split
    · exact gaps_le_of_isPrefix (chopPeriod_isPrefix _)
    · exact Nat.le_refl _
  have hSeparated : gaps (Message.reading t).separated ≤
      gaps (Message.reading t).header + (if (Message.reading t).lacksColon then 1 else 0) := by
    cases hOpening : Header.opening? (firstLine (trim t)) with
    | none =>
        rw [Message.separated_of_no_opening hOpening]
        exact Nat.le_add_right _ _
    | some o =>
        have hOld := Message.opens_header hOpening
        have hNew := Message.opens_separated hOpening
        have hRest : gaps ((Message.reading t).reopened o).rest ≤
            gaps o.rest + (if (Message.reading t).lacksColon then 1 else 0) := by
          have hTrim := gaps_trim_le o.rest
          have hColon : gapWeight ':' = 0 := by decide
          have hSpace : gapWeight ' ' = 1 := by decide
          rw [Message.reopened]
          dsimp only
          split
          · rw [gaps_cons, gaps_cons, hColon, hSpace]
            omega
          · exact Nat.le_add_right _ _
        have hScope : ((Message.reading t).reopened o).scope = o.scope := rfl
        rw [hOld.text_eq, hNew.text_eq, unlines_singleton, unlines_singleton]
        simp only [Header.Opening.toText, gaps_append, hScope,
          gaps_letters hOld.sealed.letters, gaps_letters hNew.sealed.letters]
        omega
  exact Nat.le_trans hMended hSeparated

theorem gaps_below (t : Text) :
    gaps (Message.reading t).below.flatten = gaps (Message.reading t).lines.tail.flatten := by
  rw [Message.below]
  split
  · simp
  · rfl

theorem gaps_before_wrapping (t : Text) :
    gaps (unlines ((Message.reading t).mended :: (Message.reading t).below)) ≤
      gaps (trim t) + (if (Message.reading t).lacksColon then 1 else 0) := by
  have hMended := gaps_mended_le t
  rw [Message.trim_eq_unlines t, gaps_unlines, gaps_unlines, List.flatten_cons, List.flatten_cons,
    gaps_append, gaps_append, gaps_below]
  omega

theorem gaps_pass_le (hInk : blank t = false) :
    gaps (pass t) ≤ gaps (trim t) + (if (Message.reading t).lacksColon then 1 else 0) := by
  rw [pass_eq hInk]
  exact Nat.le_trans (gaps_trim_le _)
    (Nat.le_trans (gaps_wrapAll_le _ _).1 (gaps_before_wrapping t))

/-! ## The header after a pass -/

theorem lines_before_wrapping (t : Text) :
    lines (unlines ((Message.reading t).mended :: (Message.reading t).below)) =
      (Message.reading t).mended :: (Message.reading t).below := by
  apply lines_unlines (by simp)
  intro l hl
  rcases List.mem_cons.1 hl with rfl | hl
  · exact Message.newline_not_mem_mended t
  · exact Message.newline_not_mem_below hl

theorem firstLine_before_wrapping (t : Text) :
    firstLine (unlines ((Message.reading t).mended :: (Message.reading t).below)) =
      (Message.reading t).mended := by
  exact firstLine_of_lines (lines_before_wrapping t)

/-- If no period is dropped, a pass settles the header by each fix that works on
it, and the other fixes do not unsettle it. -/
theorem unsettled_pass_add_le (hInk : blank t = false)
    (hPeriod : (Message.reading t).endsInPeriod = false) :
    Header.unsettled (firstLine (pass t)) +
        (if (Message.reading t).miscased?.isSome then 1 else 0) +
        (if (Message.reading t).lacksColon then 1 else 0) ≤
      Header.unsettled (firstLine (trim t)) := by
  have hMended : (Message.reading t).mended = (Message.reading t).separated := by
    rw [Message.mended, hPeriod]
    rfl
  have hFirst := firstLine_before_wrapping t
  rw [hMended] at hFirst
  have hHead : ∃ c ∈ (firstLine (unlines ((Message.reading t).separated ::
      (Message.reading t).below))).head?, isBlank c = false := by
    rw [hFirst]
    exact head?_separated hInk
  have hWrap := KeepsHead.wrapAll hHead (Message.reading t).long
  have hKeeps := (hWrap.trans (KeepsHead.trim hWrap.1)).unsettled_le hHead
  rw [hFirst] at hKeeps
  rw [pass_eq hInk, hMended]
  exact Nat.le_trans (Nat.add_le_add_right (Nat.add_le_add_right hKeeps _) _)
    (unsettled_separated_add_le t)

/-! ## The weight goes down -/

theorem crowdsHeader_le (ls : List Text) :
    (if Message.crowdsHeader ls then 1 else 0) ≤ 1 := by
  split <;> omega

/-- Dropping a period outweighs whatever else the pass does. -/
theorem disorder_lt_of_period (hInk : blank t = false)
    (hPeriod : (Message.reading t).endsInPeriod = true) :
    disorder (pass t) < disorder (trim t) := by
  have hCount := count_pass hInk
  have hGaps := gaps_pass_le hInk
  have hHeader := Header.unsettled_le (firstLine (pass t))
  have hCrowd := crowdsHeader_le (lines (pass t))
  rw [hPeriod, if_pos rfl] at hCount
  have hColon : (if (Message.reading t).lacksColon then 1 else 0) ≤ 1 := by split <;> omega
  unfold disorder
  omega

/-- So does settling the header, if no period is there to be dropped. -/
theorem disorder_lt_of_header (hInk : blank t = false)
    (hPeriod : (Message.reading t).endsInPeriod = false)
    (hFix : (Message.reading t).miscased?.isSome = true ∨ (Message.reading t).lacksColon = true) :
    disorder (pass t) < disorder (trim t) := by
  have hCount := count_pass hInk
  have hGaps := gaps_pass_le hInk
  have hHeader := unsettled_pass_add_le hInk hPeriod
  have hCrowd := crowdsHeader_le (lines (pass t))
  rw [hPeriod, if_neg (by simp)] at hCount
  unfold disorder
  rcases hFix with hCase | hColon
  · rw [hCase, if_pos rfl] at hHeader
    split at hGaps <;> omega
  · rw [hColon, if_pos rfl] at hHeader hGaps
    omega

/-- With the header in order a pass makes gaps smaller, or all it does is to put
an empty line below the header. -/
theorem pass_of_header (hInk : blank t = false)
    (hPeriod : (Message.reading t).endsInPeriod = false)
    (hCase : (Message.reading t).miscased? = none)
    (hColon : (Message.reading t).lacksColon = false) :
    gaps (pass t) < gaps (trim t) ∨
      pass t = trim (unlines ((Message.reading t).header :: (Message.reading t).below)) ∧
        ∀ k ∈ (Message.reading t).long,
          ∀ l ∈ ((Message.reading t).header :: (Message.reading t).below)[k]?,
            Wrap.wrap Fix.wrapWidth l = l := by
  have hMended : (Message.reading t).mended = (Message.reading t).header := by
    simp [Message.mended, Message.separated, Message.typed, hPeriod, hCase, hColon]
  have hBefore := gaps_before_wrapping t
  have hLines := lines_before_wrapping t
  rw [hColon, if_neg (by simp)] at hBefore
  rw [hMended] at hBefore hLines
  obtain ⟨hLe, hSame⟩ := gaps_wrapAll_le
    (unlines ((Message.reading t).header :: (Message.reading t).below)) (Message.reading t).long
  rw [pass_eq hInk, hMended]
  by_cases hLeast : gaps (unlines ((Message.reading t).header :: (Message.reading t).below)) ≤
      gaps (wrapAll (unlines ((Message.reading t).header :: (Message.reading t).below))
        (Message.reading t).long)
  · obtain ⟨hAll, hWrap⟩ := hSame hLeast
    rw [hLines] at hWrap
    exact Or.inr ⟨by rw [hAll], hWrap⟩
  · have hTrim := gaps_trim_le
      (wrapAll (unlines ((Message.reading t).header :: (Message.reading t).below))
        (Message.reading t).long)
    exact Or.inl (by omega)

/-- An empty line that is put below a crowded header is read as such. -/
theorem crowdsHeader_after (hInk : blank t = false)
    (hCrowd : Message.crowdsHeader (Message.reading t).lines = true) :
    Message.crowdsHeader (lines (trim (unlines
      ((Message.reading t).header :: (Message.reading t).below)))) = false := by
  obtain ⟨header, l, rest, hLines, -⟩ := Message.exists_of_crowdsHeader hCrowd
  have hTail : (Message.reading t).lines.tail = l :: rest := by rw [hLines, List.tail_cons]
  have hTidy := tidy_lines_trim hInk
  rw [Message.lines_trim, hTail] at hTidy
  have hBelow : (Message.reading t).below = [] :: l :: rest := by
    rw [Message.below, hCrowd, if_pos rfl, hTail]
  rw [hBelow, hTidy.insert_empty.lines_trim]
  rfl

/-- What is still asked for when no fix of the header has an effect and all long
lines are laid out. -/
theorem settled_of_laid_out (hTrim : trim t = t) (hInk : blank t = false)
    (hPeriod : (Message.reading t).endsInPeriod = false)
    (hCase : (Message.reading t).miscased? = none)
    (hColon : (Message.reading t).lacksColon = false)
    (hCrowd : Message.crowdsHeader (Message.reading t).lines = false)
    (hWrap : ∀ k ∈ (Message.reading t).long, ∀ l ∈ (lines t)[k]?,
      Wrap.wrap Fix.wrapWidth l = l) : Settled t := by
  intro i hi f hFix
  rw [lint_eq_issues hInk] at hi
  rcases Message.fix_cases hi hFix with hChoose | ⟨found, -, hFound⟩ | ⟨-, hOn⟩ | ⟨-, hOn⟩ |
    ⟨-, hOn⟩ | ⟨k, l, hAt, hLine, hLong⟩
  · exact Or.inl hChoose
  · exact absurd hFound (by simp [hCase])
  · exact absurd hOn (by simp [hColon])
  · exact absurd hOn (by simp [hPeriod])
  · exact absurd hOn (by simp [hCrowd])
  · have hIndex : k ∈ (Message.reading t).long := by
      have hMem := mem_longFrom (n := 0) hLine hLong
      rwa [Nat.zero_add] at hMem
    have hText : (Message.reading t).lines = lines t := by rw [Message.reading, hTrim]
    rw [hText] at hLine
    have hFeed : '\n' ∉ l := newline_not_mem_of_mem_lines (List.mem_of_getElem? hLine)
    have hNe : l ≠ [] := by
      rintro rfl
      exact absurd hLong (by decide)
    have hWide : Fix.wrapWidth < (l.length : Int) := by
      unfold Rule.lineWarn at hLong
      unfold Fix.wrapWidth
      omega
    exact Or.inr ⟨k, l, hAt, hLine, hLong,
      Wrap.solid_of_wrap_eq_self hFeed (hWrap k hIndex l hLine) hWide hNe⟩

/-- With the header in order a pass lowers the weight by its gaps or by the line
below the header, or leaves the text alone. -/
theorem disorder_pass_of_header (hTrim : trim t = t) (hInk : blank t = false)
    (hPeriod : (Message.reading t).endsInPeriod = false)
    (hCase : (Message.reading t).miscased? = none)
    (hColon : (Message.reading t).lacksColon = false) :
    disorder (pass t) < disorder t ∨ (pass t = t ∧ Settled t) := by
  have hCount := count_pass hInk
  have hGaps := gaps_pass_le hInk
  have hHeader := unsettled_pass_add_le hInk hPeriod
  have hFlag := crowdsHeader_le (lines (pass t))
  rw [hPeriod, if_neg (by simp), hTrim] at hCount
  simp only [hCase, hColon, Option.isSome_none, Bool.false_eq_true, if_false,
    Nat.add_zero, hTrim] at hGaps hHeader
  rcases pass_of_header hInk hPeriod hCase hColon with hLess | ⟨hPass, hWrap⟩
  · left
    rw [hTrim] at hLess
    unfold disorder
    omega
  · cases hCrowd : Message.crowdsHeader (Message.reading t).lines with
    | true =>
        left
        have hAfter := crowdsHeader_after hInk hCrowd
        have hText : (Message.reading t).lines = lines t := by rw [Message.reading, hTrim]
        rw [← hPass] at hAfter
        rw [hText] at hCrowd
        unfold disorder
        rw [hAfter, hCrowd]
        simp only [Bool.false_eq_true, if_false, if_true]
        omega
    | false =>
        right
        have hLines : (Message.reading t).header :: (Message.reading t).below = lines t := by
          rw [Message.below, hCrowd, if_neg (by simp), ← Message.lines_trim, hTrim]
        rw [hLines] at hPass hWrap
        rw [unlines_lines, hTrim] at hPass
        exact ⟨hPass, settled_of_laid_out hTrim hInk hPeriod hCase hColon hCrowd hWrap⟩

/-- **A pass lowers the weight of a text or leaves it alone**, and what it leaves
alone is settled. -/
theorem disorder_pass (hTrim : trim t = t) :
    disorder (pass t) < disorder t ∨ (pass t = t ∧ Settled t) := by
  cases hBlank : blank t with
  | true =>
      right
      constructor
      · rw [pass, fixAll, Message.normalize, lint_trim, lint_of_blank hBlank]
        exact (trim_trim t).trans hTrim
      · intro i hi f hFix
        rw [lint_of_blank hBlank, List.mem_singleton] at hi
        rw [hi] at hFix
        contradiction
  | false =>
      cases hPeriod : (Message.reading t).endsInPeriod with
      | true =>
          left
          have hLess := disorder_lt_of_period hBlank hPeriod
          rwa [hTrim] at hLess
      | false =>
          by_cases hFix : (Message.reading t).miscased?.isSome = true ∨
              (Message.reading t).lacksColon = true
          · left
            have hLess := disorder_lt_of_header hBlank hPeriod hFix
            rwa [hTrim] at hLess
          · rw [not_or, Bool.not_eq_true, Bool.not_eq_true, Option.isSome_eq_false_iff,
              Option.isNone_iff_eq_none] at hFix
            exact disorder_pass_of_header hTrim hBlank hPeriod hFix.1 hFix.2

/-! ## Sessions -/

namespace Session

/-- Repairing everything once more changes neither the text nor the issues. -/
def AtRest (s : Session) : Prop :=
  s.applyAll.current = s.current ∧ s.applyAll.issues = s.issues

instance (s : Session) : Decidable s.AtRest := inferInstanceAs (Decidable (_ ∧ _))

/-- A trimmed text with its own issues, and no decision made. -/
structure Fresh (s : Session) : Prop where
  trimmed : trim s.current = s.current
  issues_eq : s.issues = lint s.current
  undecided : s.choices = .undecided

theorem fresh_applyAll (s : Session) : s.applyAll.Fresh :=
  { trimmed := trim_trim _
    issues_eq := rfl
    undecided := rfl }

theorem Fresh.current_applyAll {s : Session} (h : s.Fresh) :
    s.applyAll.current = pass s.current := by
  rw [pass, fixAll, Message.normalize, h.trimmed, ← h.issues_eq, ← h.undecided]
  rfl

/-- Enough passes bring a fresh session to rest. -/
theorem Fresh.exists_atRest {s : Session} (h : s.Fresh) :
    ∃ n, ((List.replicate n Action.applyAll).foldl after s).AtRest := by
  induction hWeight : disorder s.current using Nat.strongRecOn generalizing s with
  | ind w ih =>
      rcases disorder_pass h.trimmed with hLess | ⟨hSame, -⟩
      · have hNext := h.current_applyAll
        rw [← hNext, hWeight] at hLess
        obtain ⟨n, hRest⟩ := ih _ hLess (fresh_applyAll s) rfl
        exact ⟨n + 1, hRest⟩
      · refine ⟨0, ?_⟩
        have hText : s.applyAll.current = s.current := h.current_applyAll.trans hSame
        refine ⟨hText, ?_⟩
        show s.applyAll.issues = s.issues
        rw [(fresh_applyAll s).issues_eq, h.issues_eq, hText]

/-- At rest a session that waits for no decision is fresh, and its text is
settled. -/
theorem AtRest.settled {s : Session} (h : s.AtRest) (hChoices : s.choices = .undecided) :
    s.Fresh ∧ Settled s.current := by
  obtain ⟨hText, hIssues⟩ := h
  have hNext := fresh_applyAll s
  have hFresh : s.Fresh :=
    { trimmed := by
        have hTrimmed := hNext.trimmed
        rwa [hText] at hTrimmed
      issues_eq := by rw [← hIssues, hNext.issues_eq, hText]
      undecided := hChoices }
  refine ⟨hFresh, ?_⟩
  rcases disorder_pass hFresh.trimmed with hLess | ⟨-, hSettled⟩
  · rw [← hFresh.current_applyAll, hText] at hLess
    exact absurd hLess (Nat.lt_irrefl _)
  · exact hSettled

/--
**Repeated repairs converge**: from every session that actions lead to, finitely
many repairs of everything reach one that another repair leaves as it is.  In a
session that is left as it is with no decision made, an issue with a fix asks
for a decision, or for a line to be wrapped that is one word of more than 75
characters.
-/
theorem applyAll_converges :
    (∀ actions : List Action,
      ∃ n, (run (actions ++ List.replicate n .applyAll)).AtRest) ∧
    ∀ s : Session, s.AtRest → s.choices = .undecided →
      ∀ i ∈ s.issues, ∀ f, i.fix = some f → f = .choose .type ∨
        ∃ k l, f = .wrapLine k ∧ (lines s.current)[k]? = some l ∧ 75 < l.length ∧
          ∀ c ∈ l, isBlank c = false := by
  constructor
  · intro actions
    obtain ⟨n, hRest⟩ := (fresh_applyAll (run actions)).exists_atRest
    refine ⟨n + 1, ?_⟩
    rw [run, List.foldl_append]
    exact hRest
  · intro s hRest hChoices i hi f hFix
    obtain ⟨hFresh, hSettled⟩ := hRest.settled hChoices
    rw [hFresh.issues_eq] at hi
    exact hSettled i hi f hFix

/-- A session at rest can have a line left that is too long. -/
theorem applyAll_converges_long_word :
    let s := run [.update ("feat: add\n\n".toList ++ List.replicate 80 'x')]
    s.AtRest ∧ s.choices = .undecided ∧
      ∃ l, (lines s.current)[2]? = some l ∧ 75 < l.length ∧ ∀ c ∈ l, isBlank c = false := by
  intro s
  have hRest : s.AtRest := by decide +kernel
  have hIssue : ∃ i ∈ s.issues, i.fix = some (.wrapLine 2) := by decide +kernel
  obtain ⟨i, hi, hFix⟩ := hIssue
  refine ⟨hRest, rfl, ?_⟩
  rcases applyAll_converges.2 s hRest rfl i hi _ hFix with hChoose | ⟨k, l, hAt, hLine⟩
  · contradiction
  · obtain rfl := Fix.wrapLine.inj hAt
    exact ⟨l, hLine⟩

end Session

end CommitLint
