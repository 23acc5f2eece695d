import CommitLint.Proofs.Pass

/-!
# Carriage returns

Reading a file takes every carriage return for the end of a line.  A repaired
message that is written to a file is read again as it was written only if it holds
none.  No fix brings one in: what a fix adds is a type, a colon, a space or a line
feed, and all else comes from the text.

Main result: `return_not_mem_fixAll`.
-/

namespace CommitLint

open Text

namespace Text

theorem return_not_mem_unifyLineEnds (t : Text) : '\r' ∉ unifyLineEnds t := by
  fun_induction unifyLineEnds t with
  | case1 => simp
  | case2 cs ih => simpa using ih
  | case3 cs hAlone ih => simpa using ih
  | case4 c cs hNoFeed hNoReturn ih =>
      have hc : c ≠ '\r' := hNoReturn
      simp [Ne.symm hc, ih]

theorem unifyLineEnds_of_not_mem {t : Text} (hNone : '\r' ∉ t) : unifyLineEnds t = t := by
  fun_induction unifyLineEnds t with
  | case1 => rfl
  | case2 cs ih => simp at hNone
  | case3 cs hAlone ih => simp at hNone
  | case4 c cs hNoFeed hNoReturn ih =>
      rw [ih fun hMem => hNone (by simp [hMem])]

/-! ## Lines and what they are made of -/

theorem mem_unlines_of_mem {ls : List Text} {l : Text} (hLine : l ∈ ls) {c : Char} (hc : c ∈ l) :
    c ∈ unlines ls := by
  induction ls with
  | nil => simp at hLine
  | cons k ks ih =>
      by_cases hEmpty : ks = []
      · subst hEmpty
        rw [List.mem_singleton] at hLine
        rw [unlines_singleton, ← hLine]
        exact hc
      · rw [unlines_cons k hEmpty]
        rcases List.mem_cons.1 hLine with rfl | hLater
        · simp [hc]
        · simp [ih hLater]

theorem not_mem_of_mem_lines {t l : Text} (hLine : l ∈ lines t) {c : Char} (h : c ∉ t) : c ∉ l := by
  intro hc
  have hMem := mem_unlines_of_mem hLine hc
  rw [unlines_lines] at hMem
  exact h hMem

/-- Only the line feed comes into a text by joining lines. -/
theorem not_mem_unlines {c : Char} (hFeed : c ≠ '\n') {ls : List Text} (h : ∀ l ∈ ls, c ∉ l) :
    c ∉ unlines ls := by
  induction ls with
  | nil => simp
  | cons l ls ih =>
      have hl : c ∉ l := h l (by simp)
      have hls : c ∉ unlines ls := ih fun k hk => h k (by simp [hk])
      by_cases hEmpty : ls = []
      · simpa [hEmpty] using hl
      · rw [unlines_cons l hEmpty]
        simp [hl, hFeed, hls]

theorem not_mem_mapFirstLine {c : Char} (hFeed : c ≠ '\n') {f : Text → Text}
    (hf : ∀ l, c ∉ l → c ∉ f l) {t : Text} (h : c ∉ t) : c ∉ mapFirstLine f t := by
  unfold mapFirstLine
  split
  · simp
  · rename_i l ls hLines
    have hAll : ∀ k ∈ l :: ls, c ∉ k := by
      intro k hk
      rw [← hLines] at hk
      exact not_mem_of_mem_lines hk h
    refine not_mem_unlines hFeed fun k hk => ?_
    rcases List.mem_cons.1 hk with rfl | hLater
    · exact hf l (hAll l (by simp))
    · exact hAll k (by simp [hLater])

end Text

/-! ## Fixes -/

namespace Fix

theorem return_not_mem_name (k : CommitType) : '\r' ∉ k.name := by
  cases k <;> decide

theorem not_mem_separateBody {c : Char} (hFeed : c ≠ '\n') {t : Text} (h : c ∉ t) :
    c ∉ separateBody t := by
  unfold separateBody
  split
  · rename_i header l ls hLines
    split
    · exact h
    · have hAll : ∀ k ∈ lines t, c ∉ k := fun k hk => not_mem_of_mem_lines hk h
      rw [hLines] at hAll
      refine not_mem_unlines hFeed fun k hk => ?_
      simp only [List.mem_cons] at hk
      rcases hk with rfl | rfl | rfl | hLater
      · exact hAll _ (by simp)
      · simp
      · exact hAll _ (by simp)
      · exact hAll k (by simp [hLater])
  · exact h

theorem not_mem_wrap {c : Char} (hBlank : isBlank c = true) (hFeed : c ≠ '\n') (hSpace : c ≠ ' ')
    (width : Int) (t : Text) : c ∉ Wrap.wrap width t := by
  refine not_mem_unlines hFeed fun l hl => ?_
  unfold Wrap.wrappedLines Wrap.fill at hl
  split at hl
  · simp at hl
  · rename_i w ws hWords
    have hAll : ∀ v ∈ w :: ws, c ∉ v := by
      intro v hv
      rw [← hWords] at hv
      exact Wrap.not_mem_word hBlank hv
    exact Wrap.not_mem_fillFrom hSpace (hAll w (by simp)) (fun v hv => hAll v (by simp [hv])) l hl

theorem not_mem_wrapLineAt {c : Char} (hBlank : isBlank c = true) (hFeed : c ≠ '\n')
    (hSpace : c ≠ ' ') (k : Nat) {t : Text} (h : c ∉ t) : c ∉ wrapLineAt k t := by
  rcases wrapLineAt_cases k t with ⟨-, hSame⟩ | ⟨front, l, back, hLines, -, hNew⟩
  · rwa [hSame]
  · have hAll : ∀ x ∈ front ++ l :: back, c ∉ x := by
      intro x hx
      rw [← hLines] at hx
      exact not_mem_of_mem_lines hx h
    rw [hNew]
    refine not_mem_unlines hFeed fun x hx => ?_
    rcases List.mem_append.1 hx with hFront | hBack
    · exact hAll x (by simp [hFront])
    · rcases List.mem_cons.1 hBack with rfl | hBack
      · exact not_mem_wrap hBlank hFeed hSpace _ _
      · exact hAll x (by simp [hBack])

theorem return_not_mem_putType (k : CommitType) {t : Text} (h : '\r' ∉ t) :
    '\r' ∉ putType k t := by
  have hName := return_not_mem_name k
  have hTrim : '\r' ∉ trim t := fun hMem => h (trim_subset t hMem)
  have hLetters : '\r' ∉ t.dropWhile isLetter := fun hMem =>
    h ((List.dropWhile_suffix _).subset hMem)
  have hColon : '\r' ∉ t.dropWhile (· != ':') := fun hMem =>
    h ((List.dropWhile_suffix _).subset hMem)
  unfold putType
  split
  · exact h
  · split
    · split
      · simp [hName, hTrim]
      · rename_i rest hRest
        simp [hName, hColon]
    · split
      · exact h
      · simp [hName, hLetters]

end Fix

/-! ## Repairs -/

/-- The fix of an issue that linting finds brings in no carriage return. -/
theorem return_not_mem_repair {m : Message} {i : Issue} (hMem : i ∈ m.issues) (c : Choices)
    {t : Text} (h : '\r' ∉ t) : '\r' ∉ i.repair c t := by
  unfold Issue.repair
  split
  · exact h
  · rename_i f hFix
    rcases Message.fix_cases hMem hFix with rfl | ⟨found, rfl, hType⟩ | ⟨rfl, -⟩ | ⟨rfl, -⟩ |
      ⟨rfl, -⟩ | ⟨k, l, rfl, -, -⟩
    · rw [Fix.apply]
      split
      · exact h
      · exact Fix.return_not_mem_putType _ h
    · obtain ⟨-, -, k, hLower⟩ := Message.miscased?_eq_some_iff.1 hType
      have hDrop : '\r' ∉ t.drop found.length := fun hIn => h (List.mem_of_mem_drop hIn)
      rw [Fix.apply, Fix.lowercaseHead]
      split
      · simp [hLower, Fix.return_not_mem_name, hDrop]
      · exact h
    · exact not_mem_mapFirstLine (by decide)
        (fun l hl => Fix.not_mem_addColon (by decide) (by decide) hl) h
    · exact not_mem_mapFirstLine (by decide)
        (fun l hl hIn => hl ((chopPeriod_isPrefix l).subset hIn)) h
    · exact Fix.not_mem_separateBody (by decide) h
    · exact Fix.not_mem_wrapLineAt (by decide) (by decide) (by decide) k h

theorem return_not_mem_repairAll {m : Message} (c : Choices) {t : Text} (h : '\r' ∉ t)
    {issues : List Issue} (hAll : ∀ i ∈ issues, i ∈ m.issues) : '\r' ∉ repairAll c t issues := by
  induction issues generalizing t with
  | nil => exact h
  | cons i is ih =>
      have hOne := return_not_mem_repair (hAll i (by simp)) c h
      exact ih hOne fun j hj => hAll j (by simp [hj])

/-- **No fix brings in a carriage return.** -/
theorem return_not_mem_fixAll (c : Choices) {t : Text} (h : '\r' ∉ t) : '\r' ∉ fixAll c t := by
  have hTrim : '\r' ∉ trim t := fun hMem => h (trim_subset t hMem)
  rw [fixAll, Message.normalize, lint_trim]
  cases hBlank : blank t with
  | true =>
      rw [lint_of_blank hBlank]
      exact hTrim
  | false =>
      rw [lint_eq_issues hBlank]
      exact return_not_mem_repairAll c hTrim fun i hi => hi

end CommitLint
