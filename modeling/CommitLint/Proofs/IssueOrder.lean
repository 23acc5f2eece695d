import CommitLint.Proofs.LongLines

/-!
# The order of issues

Issues are named by their position, so the order of the list has to be one that
does not depend on what is found.  A chain of rules lists what each rule finds
after what was found before, and leaves none out.  In the chain of all rules this
makes the ranks of the rules ascend; all rules but the last find at most one issue,
and the issues of the last are those of the lines that are too long, one for each,
from the top down (`Issue.Ordered`).  None of this needs a message whose parts fit
its header.

Two facts do.  A header that has been read has ink, so that R1 belongs to texts that
cannot be read; and it is the first line, so that R7 and R9, whose limits for errors
are the same, weigh it alike.

Main result: `issues_ordered`.
-/

namespace CommitLint

open Text

/-! ## Single rules -/

theorem Severity.eq_of_error_iff {s s' : Severity} (h : s = error ↔ s' = error) : s = s' := by
  cases s with
  | error => exact (h.1 rfl).symm
  | warning =>
      cases s' with
      | error => exact h.2 rfl
      | warning => rfl

namespace Rule

theorem severity_of_mem_longLine? {index : Nat} {l : Text} {i : Issue}
    (h : i ∈ longLine? index l) : i.severity = .error ↔ lineMax < l.length := by
  unfold longLine? at h
  by_cases hError : l.length > lineMax
  · rw [if_pos hError, Option.mem_some_iff] at h
    simp [← h, longLine, hError]
  · rw [if_neg hError] at h
    split at h
    · rw [Option.mem_some_iff] at h
      simpa [← h, longLine] using hError
    · contradiction

/-- An issue of R9 is about a line that is too long, and weighs it. -/
theorem weight_of_mem_checkLineLength {m : Message} {i : Issue} (h : i ∈ checkLineLength m) :
    ∃ k l, m.lines[k]? = some l ∧ i.lineIndex? = some k ∧ lineWarn < l.length ∧
      (i.severity = .error ↔ lineMax < l.length) := by
  obtain ⟨k, l, hLine, hi⟩ := of_mem_longLines h
  rw [Nat.zero_add] at hi
  have hLong : lineWarn < l.length := by
    refine Nat.lt_of_not_le fun hShort => ?_
    rw [(longLine?_eq_none_iff k l).2 hShort] at hi
    contradiction
  refine ⟨k, l, hLine, ?_, hLong, severity_of_mem_longLine? hi⟩
  rw [Issue.lineIndex?, (of_mem_longLine? hi).2]
  rfl

/-- A header beyond the first limit has one issue of R7, which weighs it. -/
theorem exists_mem_checkHeaderLength {m : Message} (hLong : headerWarn < m.header.length) :
    ∃ j ∈ checkHeaderLength m, j.rule = .headerLength ∧
      (j.severity = .error ↔ headerMax < m.header.length) := by
  unfold checkHeaderLength
  by_cases hError : m.header.length > headerMax
  · simp [hError]
  · simp [hError, hLong]

end Rule

/-! ## The list of a message -/

/-- Issues in order, for a message of given lines. -/
structure Issue.Ordered (ls : List Text) (issues : List Issue) : Prop where
  /-- The ranks of the rules ascend. -/
  ranks : issues.Pairwise fun i j => i.rule.rank ≤ j.rule.rank
  /-- Only R9 can have more than one issue. -/
  once : ∀ r : Rule, r ≠ .lineLength → (reports issues r).length ≤ 1
  /-- The issues of R9 go down the lines. -/
  downward : (longIndices issues).Pairwise (· < ·)
  /-- There is one for each line that is too long, and none for another index. -/
  each : ∀ k, (longIndices issues).count k = if 75 < (ls[k]?.getD []).length then 1 else 0
  /-- It is an error from the second limit on. -/
  weight : ∀ i ∈ reports issues .lineLength, ∃ k l, ls[k]? = some l ∧ i.lineIndex? = some k ∧
    (i.severity = .error ↔ 100 < l.length)

namespace Message

theorem pairwise_rank_issues (m : Message) :
    m.issues.Pairwise fun i j => i.rule.rank ≤ j.rule.rank := by
  have hAscend : Rule.all.Pairwise fun r r' => r.rank ≤ r'.rank := by decide
  rw [issues_eq, List.pairwise_flatMap]
  constructor
  · intro r _
    rw [List.pairwise_iff_forall_sublist]
    intro i j hPair
    -- Issues of one rule have one rank.
    have hi := Rule.rule_of_mem_check (hPair.subset List.mem_cons_self)
    have hj := Rule.rule_of_mem_check (hPair.subset (List.mem_cons_of_mem _ List.mem_cons_self))
    rw [hi, hj]
  · refine hAscend.imp fun {r r'} hRank i hi j hj => ?_
    rw [Rule.rule_of_mem_check hi, Rule.rule_of_mem_check hj]
    exact hRank

theorem length_reports_le (m : Message) {r : Rule} (hr : r ≠ .lineLength) :
    (reports m.issues r).length ≤ 1 := by
  rw [reports_issues]
  rcases Rule.check_eq_nil_or_singleton hr m with hNil | ⟨i, hOne, -⟩
  · simp [hNil]
  · simp [hOne]

/-- The lines that are reported as too long are those that are. -/
theorem mem_long_iff {m : Message} {k : Nat} :
    k ∈ m.long ↔ Rule.lineWarn < (m.lines[k]?.getD []).length := by
  rw [← longIndices_issues]
  constructor
  · intro hMem
    obtain ⟨i, hi, hIndex⟩ := List.mem_filterMap.1 hMem
    rw [← reports, reports_issues] at hi
    obtain ⟨k', l, hLine, hOwn, hLong, -⟩ := Rule.weight_of_mem_checkLineLength hi
    obtain rfl : k' = k := Option.some.inj (hOwn.symm.trans hIndex)
    simpa [hLine] using hLong
  · intro hLong
    cases hLine : m.lines[k]? with
    | none => simp [hLine] at hLong
    | some l =>
        rw [hLine] at hLong
        have hMem := mem_longFrom (n := 0) hLine hLong
        rw [Nat.zero_add] at hMem
        rw [longIndices_issues]
        exact hMem

theorem count_longIndices (m : Message) (k : Nat) :
    (longIndices m.issues).count k = if 75 < (m.lines[k]?.getD []).length then 1 else 0 := by
  have hNodup : m.long.Nodup := (pairwise_longFrom 0 m.lines).imp Nat.ne_of_lt
  rw [longIndices_issues, hNodup.count]
  exact if_congr mem_long_iff rfl rfl

theorem ordered_issues (m : Message) : Issue.Ordered m.lines m.issues where
  ranks := m.pairwise_rank_issues
  once := fun _ hr => m.length_reports_le hr
  downward := by
    rw [longIndices_issues]
    exact pairwise_longFrom 0 m.lines
  each := m.count_longIndices
  weight := by
    intro i hi
    rw [reports_issues] at hi
    obtain ⟨k, l, hLine, hIndex, -, hWeight⟩ := Rule.weight_of_mem_checkLineLength hi
    exact ⟨k, l, hLine, hIndex, hWeight⟩

/-- The first line of a message that has been read is its header. -/
theorem header_of_parse? {t : Text} {m : Message} (h : parse? t = some m) :
    m.lines[0]? = some m.header := by
  obtain ⟨-, rfl⟩ := parse?_eq_some_iff.1 h
  have hLines : (reading t).lines = (reading t).header :: (reading t).lines.tail := lines_trim t
  rw [hLines]
  rfl

/-- R7 and R9 weigh a header alike. -/
theorem exists_headerLength {t : Text} {m : Message} (h : parse? t = some m) {i : Issue}
    (hi : i ∈ reports m.issues .lineLength) (hFirst : i.lineIndex? = some 0) :
    ∃ j ∈ m.issues, j.rule = .headerLength ∧ j.severity = i.severity := by
  rw [reports_issues] at hi
  obtain ⟨k, l, hLine, hIndex, hLong, hWeight⟩ := Rule.weight_of_mem_checkLineLength hi
  obtain rfl : k = 0 := Option.some.inj (hIndex.symm.trans hFirst)
  obtain rfl : m.header = l := Option.some.inj ((header_of_parse? h).symm.trans hLine)
  have hBeyond : Rule.headerWarn < m.header.length := Nat.lt_trans (by decide) hLong
  obtain ⟨j, hj, hRule, hHeader⟩ := Rule.exists_mem_checkHeaderLength hBeyond
  refine ⟨j, mem_issues.2 ⟨.headerLength, hj⟩, hRule, Severity.eq_of_error_iff ?_⟩
  exact hHeader.trans hWeight.symm

end Message

/-! ## The list of a text -/

/-- R1 belongs to texts that cannot be read. -/
theorem exists_headerPresent_iff (t : Text) :
    (∃ i ∈ lint t, i.rule = .headerPresent) ↔ blank t = true := by
  constructor
  · rintro ⟨i, hi, hRule⟩
    cases hInk : blank t with
    | true => rfl
    | false =>
        rw [lint_eq_issues hInk] at hi
        have hCheck := Message.mem_check_of_mem_issues hi
        rw [hRule, Rule.check, Rule.checkHeaderPresent, Message.blank_header hInk] at hCheck
        contradiction
  · intro hBlank
    simp [lint_of_blank hBlank]

/--
**The order of issues**.  Whatever message a chain of rules looks at, it adds to the
issues found before what each rule finds, in the order of the chain.  The issues of
any message are in order.  Linting a text finds R1 exactly if the text is blank, and
nothing else then; and where R9 reports the header of a message that has been read,
R7 reports it too, with the same weight.
-/
theorem issues_ordered :
    (∀ (m : Message) (rules : List Rule) (found : List Issue),
      Rule.runChain m rules found = found ++ rules.flatMap (·.check m)) ∧
    (∀ m : Message, Issue.Ordered m.lines (Rule.runChain m Rule.all [])) ∧
    (∀ t : Text, ((∃ i ∈ lint t, i.rule = .headerPresent) ↔ blank t = true) ∧
      (blank t = true → ∃ i, lint t = [i])) ∧
    (∀ (t : Text) (m : Message), Message.parse? t = some m →
      ∀ i ∈ reports m.issues .lineLength, i.lineIndex? = some 0 →
        ∃ j ∈ m.issues, j.rule = .headerLength ∧ j.severity = i.severity) := by
  refine ⟨Rule.runChain_eq, Message.ordered_issues, fun t => ⟨exists_headerPresent_iff t, ?_⟩, ?_⟩
  · intro hBlank
    exact ⟨_, lint_of_blank hBlank⟩
  · intro t m hRead i hi hFirst
    exact Message.exists_headerLength hRead hi hFirst

/-- A blank text, and a header with 101 characters. -/
theorem issues_ordered_long_header :
    let t : Text := "fix: ".toList ++ List.replicate 96 'x'
    let i := Rule.longLine .error 100 0 101
    (∃ i, lint " \n".toList = [i]) ∧
      Message.parse? t = some (Message.reading t) ∧
      i ∈ reports (Message.reading t).issues .lineLength ∧ i.lineIndex? = some 0 ∧
      ∃ j ∈ (Message.reading t).issues, j.rule = .headerLength ∧ j.severity = .error := by
  intro t i
  have hRead : Message.parse? t = some (Message.reading t) :=
    Message.parse?_eq_reading (by decide)
  have hOwn : i ∈ reports (Message.reading t).issues .lineLength := by decide +kernel
  refine ⟨(issues_ordered.2.2.1 " \n".toList).2 (by decide), hRead, hOwn, rfl, ?_⟩
  exact issues_ordered.2.2.2 t (Message.reading t) hRead i hOwn rfl

end CommitLint
