import CommitLint.Proofs.Content

/-!
# What becomes of the lines below the header

Two functions look for a blank line.  `bodyStart?` searches all lines below the header
for the first one and wants something to follow it; `crowdsHeader`, on which R8 rests,
looks at the line right below the header only.  On lines in general they know nothing of
each other: a header with one line below it is crowded and has no body, and a header above
blank lines is not crowded and has none either.

Reading trims the text first, so the last line is not blank and something follows every
blank line below the header.  The first of them therefore starts the body, and the lines
above it are `stray`: no body holds them.  They are all that is lost below the header
(`Message.ink_tail`), and there are none exactly if the header is not crowded.

Main result: `Message.body_accounts`.
-/

namespace CommitLint

open Text

namespace Message

/-! ## The first blank line -/

/-- Lines with no blank one among them, or cut at the first blank one. -/
theorem exists_first_blank (ls : List Text) :
    (∀ l ∈ ls, blank l = false) ∨
      ∃ above gap below, ls = above ++ gap :: below ∧
        (∀ l ∈ above, blank l = false) ∧ blank gap = true := by
  have hAbove : ∀ l ∈ ls.takeWhile (!blank ·), blank l = false := by
    intro l hl
    simpa using List.mem_takeWhile_imp hl
  have hSplit : ls.takeWhile (!blank ·) ++ ls.dropWhile (!blank ·) = ls :=
    List.takeWhile_append_dropWhile
  cases hDrop : ls.dropWhile (!blank ·) with
  | nil =>
      left
      rw [hDrop, List.append_nil] at hSplit
      rwa [hSplit] at hAbove
  | cons gap below =>
      right
      have hStop := List.head?_dropWhile_not (!blank ·) ls
      refine ⟨_, gap, below, by rw [← hDrop, hSplit], hAbove, ?_⟩
      simpa [hDrop] using hStop

theorem throughBlank?_of_forall {ls : List Text} (hNone : ∀ l ∈ ls, blank l = false) :
    throughBlank? ls = none := by
  induction ls with
  | nil => rfl
  | cons l ls ih =>
      have hRest := ih fun k hk => hNone k (by simp [hk])
      simp [throughBlank?, hNone l (by simp), hRest]

variable {above below : List Text} {gap : Text}

theorem throughBlank?_append (hAbove : ∀ l ∈ above, blank l = false) (hGap : blank gap = true) :
    throughBlank? (above ++ gap :: below) = some (above.length + 1) := by
  induction above with
  | nil => simp [throughBlank?, hGap]
  | cons l ls ih =>
      have hRest := ih fun k hk => hAbove k (by simp [hk])
      simp [throughBlank?, hAbove l (by simp), hRest]

theorem bodyOf_of_forall (header : Text) (hNone : ∀ l ∈ below, blank l = false) :
    bodyOf (header :: below) = none := by
  rw [bodyOf, bodyStart?, throughBlank?_of_forall hNone]
  rfl

/-- What follows the first blank line is the body. -/
theorem bodyOf_append (header : Text) (hAbove : ∀ l ∈ above, blank l = false)
    (hGap : blank gap = true) (hBelow : ∃ l ∈ below, blank l = false) :
    bodyOf (header :: (above ++ gap :: below)) = some (trim (unlines below)) := by
  obtain ⟨l, hl, hInk⟩ := hBelow
  have hDrop : (above ++ gap :: below).drop (above.length + 1) = below := by
    rw [List.append_cons, List.drop_left' (by simp)]
  have hAny : below.all blank = false := List.all_eq_false.2 ⟨l, hl, by simp [hInk]⟩
  have hStart : bodyStart? (header :: (above ++ gap :: below)) = some (above.length + 1 + 1) := by
    rw [bodyStart?, throughBlank?_append hAbove hGap]
    simp [hDrop, hAny]
  rw [bodyOf, hStart, Option.bind_some, List.drop_succ_cons, hDrop]
  apply nonempty?_eq_some_iff.2
  refine ⟨rfl, (trim_ne_nil_iff _).2 ?_⟩
  rw [← Bool.not_eq_true, ← ink_eq_nil_iff, ink_unlines, List.flatMap_eq_nil_iff]
  intro hNone
  rw [(ink_eq_nil_iff l).1 (hNone l hl)] at hInk
  cases hInk

/-! ## The lines that belong to no body -/

/-- The lines between the header and the first blank line. -/
def stray (m : Message) : List Text := m.lines.tail.takeWhile fun l => !blank l

theorem crowdsHeader_eq (header : Text) (ls : List Text) :
    crowdsHeader (header :: ls) = !(ls.takeWhile (!blank ·)).isEmpty := by
  cases ls with
  | nil => rfl
  | cons l ls => cases hInk : blank l <;> simp [crowdsHeader, hInk]

theorem takeWhile_append_gap (hAbove : ∀ l ∈ above, blank l = false) (hGap : blank gap = true) :
    (above ++ gap :: below).takeWhile (!blank ·) = above := by
  rw [List.takeWhile_append_of_pos (by simpa using hAbove)]
  simp [hGap]

variable {t : Text}

theorem crowdsHeader_reading (t : Text) :
    crowdsHeader (reading t).lines = !(reading t).stray.isEmpty := by
  rw [show (reading t).lines = Text.lines (trim t) from rfl, lines_trim, crowdsHeader_eq]
  rfl

/-- Lines are lost exactly if characters are. -/
theorem stray_eq_nil_iff (m : Message) : m.stray = [] ↔ ink (unlines m.stray) = [] := by
  rw [ink_unlines]
  cases hStray : m.stray with
  | nil => simp
  | cons l ls =>
      have hMem : l ∈ m.stray := by simp [hStray]
      have hInk : blank l = false := by simpa using List.mem_takeWhile_imp hMem
      simp [ink_eq_nil_iff, hInk]

/-- In a trimmed text something follows each blank line below the header. -/
theorem body_reading (hInk : blank t = false)
    (hLines : (reading t).lines.tail = above ++ gap :: below)
    (hAbove : ∀ l ∈ above, blank l = false) (hGap : blank gap = true) :
    (reading t).body = some (trim (unlines below)) := by
  have hTidy := tidy_lines_trim hInk
  have hAll := lines_trim t
  rw [hLines] at hAll
  rw [hAll] at hTidy
  obtain ⟨l, hl, c, hc, hcInk⟩ := hTidy.lastInk_below (by simp)
  have hLast : blank l = false := not_blank_of_mem (List.mem_of_getLast? hc) hcInk
  rw [List.getLast?_append, List.getLast?_cons] at hl
  cases hEnd : below.getLast? with
  | none =>
      -- the blank line would be the last one
      have hGapLast : gap = l := by simpa [hEnd] using hl
      rw [hGapLast, hLast] at hGap
      cases hGap
  | some k =>
      have hSame : k = l := by simpa [hEnd] using hl
      rw [reading_of_lines hAll]
      exact bodyOf_append _ hAbove hGap ⟨l, List.mem_of_getLast? (hSame ▸ hEnd), hLast⟩

theorem body_eq_none_of_forall (hNone : ∀ l ∈ (reading t).lines.tail, blank l = false) :
    (reading t).body = none := by
  rw [reading_of_lines (lines_trim t)]
  exact bodyOf_of_forall _ hNone

/-- **Below the header** there are the stray lines and the body, and blank characters. -/
theorem ink_tail (hInk : blank t = false) :
    ink (unlines (reading t).lines.tail) =
      ink (unlines (reading t).stray) ++ ink ((reading t).body.getD []) := by
  rcases exists_first_blank (reading t).lines.tail with hNone |
    ⟨above, gap, below, hLines, hAbove, hGap⟩
  · have hAll : (reading t).stray = (reading t).lines.tail := by
      rw [stray, List.takeWhile_eq_self_iff]
      simpa using hNone
    rw [body_eq_none_of_forall hNone, hAll]
    exact (List.append_nil _).symm
  · have hStray : (reading t).stray = above := by
      rw [stray, hLines]
      exact takeWhile_append_gap hAbove hGap
    rw [body_reading hInk hLines hAbove hGap, hStray, hLines, Option.getD_some, ink_trim]
    simp [(ink_eq_nil_iff gap).2 hGap]

/--
**Where the body is and what is lost**: a message has a body exactly if some line below
the header is blank, and then it is the trimmed text below the first such line.  Of what
stands below the header, the characters that are not blank are those of the body alone
exactly if the header is not crowded.  In general the stray lines come in front of them,
and R8 tells whether these hold anything.
-/
theorem body_accounts (hInk : blank t = false) :
    ∃ m, parse? t = some m ∧ m.lines = Text.lines (trim t) ∧
      (m.body ≠ none ↔ ∃ l ∈ m.lines.tail, blank l = true) ∧
      (∀ above gap below, m.lines.tail = above ++ gap :: below →
        (∀ l ∈ above, blank l = false) → blank gap = true →
          m.body = some (trim (unlines below))) ∧
      (crowdsHeader m.lines = false ↔ ink (unlines m.lines.tail) = ink (m.body.getD [])) ∧
      ink (unlines m.lines.tail) = ink (unlines m.stray) ++ ink (m.body.getD []) ∧
      selects (lint t) .blankLine = crowdsHeader m.lines ∧
      (selects (lint t) .blankLine = true ↔ ink (unlines m.stray) ≠ []) := by
  have hTail := ink_tail hInk
  have hRule : selects (lint t) .blankLine = crowdsHeader (reading t).lines := by
    rw [lint_eq_issues hInk, selects_blankLine]
  have hCrowd : crowdsHeader (reading t).lines = false ↔ ink (unlines (reading t).stray) = [] := by
    rw [crowdsHeader_reading, ← stray_eq_nil_iff, Bool.not_eq_false', List.isEmpty_iff]
  refine ⟨reading t, parse?_eq_reading hInk, rfl, ?_,
    fun _ _ _ hLines hAbove hGap => body_reading hInk hLines hAbove hGap, ?_, hTail, hRule, ?_⟩
  · rcases exists_first_blank (reading t).lines.tail with hNone |
      ⟨above, gap, below, hLines, hAbove, hGap⟩
    · rw [body_eq_none_of_forall hNone]
      simpa using hNone
    · rw [body_reading hInk hLines hAbove hGap]
      exact ⟨fun _ => ⟨gap, by simp [hLines], hGap⟩, fun _ => Option.some_ne_none _⟩
  · rw [hCrowd, hTail, List.append_left_eq_self]
  · rw [hRule, ← Bool.not_eq_false, ne_eq, not_congr hCrowd]

/-- A crowded header over a body: two lines are lost.  Right below the header there is one
blank character, and the body keeps a blank line of its own. -/
theorem body_accounts_of_stray_lines :
    let lost : Text := "feat: x\na b\nc\n \nd\n\ne ".toList
    let kept : Text := "\nfeat: x\n\x09\n\nd\n\ne".toList
    blank lost = false ∧ blank kept = false ∧
      (∃ m, parse? lost = some m ∧ m.body = some "d\n\ne".toList ∧
        ink (unlines m.lines.tail) = "abc".toList ++ ink (m.body.getD []) ∧
        selects (lint lost) .blankLine = true) ∧
      ∃ m, parse? kept = some m ∧ m.body = some "d\n\ne".toList ∧
        ink (unlines m.lines.tail) = ink (m.body.getD []) ∧
        selects (lint kept) .blankLine = false := by
  intro lost kept
  have hLost : blank lost = false := by decide
  have hKept : blank kept = false := by decide
  refine ⟨hLost, hKept, ?_, ?_⟩
  · obtain ⟨m, hRead, hLines, -, hBody, -, hTail, hRule, -⟩ := body_accounts hLost
    have hAll : m.lines = ["feat: x", "a b", "c", " ", "d", "", "e"].map String.toList := by
      rw [hLines]
      decide +kernel
    have hBelow := hBody ["a b".toList, "c".toList] [' '] ["d".toList, [], "e".toList]
      (by rw [hAll]; rfl) (by decide) (by decide)
    refine ⟨m, hRead, hBelow, ?_, ?_⟩
    · rw [hTail, stray, hAll]
      rfl
    · rw [hRule, hAll]
      rfl
  · obtain ⟨m, hRead, hLines, -, hBody, hWhole, -, hRule, -⟩ := body_accounts hKept
    have hAll : m.lines = ["feat: x", "\x09", "", "d", "", "e"].map String.toList := by
      rw [hLines]
      decide +kernel
    have hApart : crowdsHeader m.lines = false := by
      rw [hAll]
      rfl
    have hBelow := hBody [] ['\x09'] [[], "d".toList, [], "e".toList] (by rw [hAll]; rfl)
      (by simp) (by decide)
    exact ⟨m, hRead, hBelow, hWhole.1 hApart, hRule.trans hApart⟩

end Message

end CommitLint
