import CommitLint.Proofs.Margin

/-!
# Which lines a decision for the type leaves alone

The fix that puts in the user's type replaces what stands in front of the rest of
the text: the letters at the head if the header has a type, and otherwise all that
stands before the first colon.  The lines below the header stay as they are exactly
if no line ends in the part that is replaced (`tail_lines_append_iff`).  Letters
never reach beyond the header; what stands before a colon does if the header holds
none and a line below it does.

Main result: `Fix.tail_lines_choose_iff`.
-/

namespace CommitLint

open Text

namespace Text

/-! ## A part in front of a text -/

/-- What is put in front of a text joins its first line. -/
theorem lines_append_of_not_mem {s : Text} (hFeed : '\n' ∉ s) (t : Text) :
    lines (s ++ t) = (s ++ firstLine t) :: (lines t).tail := by
  obtain ⟨rest, hLines⟩ := lines_eq_cons t
  have hJoined : s ++ t = unlines ((s ++ firstLine t) :: rest) := by
    rw [unlines_append_head, ← hLines, unlines_lines]
  rw [hJoined, hLines, List.tail_cons]
  apply lines_unlines (by simp)
  intro l hl
  rcases List.mem_cons.1 hl with rfl | hl
  · rw [List.mem_append, not_or]
    exact ⟨hFeed, newline_not_mem_of_mem_lines (t := t) (by simp [hLines])⟩
  · exact newline_not_mem_of_mem_lines (t := t) (by simp [hLines, hl])

/-- There is one line more than there are line feeds. -/
theorem length_lines (t : Text) : (lines t).length = t.count '\n' + 1 := by
  unfold lines
  fun_induction pieces '\n' t with
  | case1 => rfl
  | case2 cs ih => simp [ih]
  | case3 c cs hc h ih => exact absurd h (pieces_ne_nil '\n' cs)
  | case4 c cs hc l ls h ih =>
      rw [h] at ih
      simpa [List.count_cons_of_ne hc] using ih

/-- **Another part in front** leaves the further lines alone exactly if the old one
ends no line. -/
theorem tail_lines_append_iff {s : Text} (hFeed : '\n' ∉ s) (u t : Text) :
    (lines (s ++ t)).tail = (lines (u ++ t)).tail ↔ '\n' ∉ u := by
  constructor
  · intro hTail hMem
    have hCount : 0 < u.count '\n' := List.count_pos_iff.2 hMem
    have hLength := congrArg List.length hTail
    rw [List.length_tail, List.length_tail, length_lines, length_lines, List.count_append,
      List.count_append, List.count_eq_zero.2 hFeed] at hLength
    omega
  · intro hOld
    rw [lines_append_of_not_mem hFeed, lines_append_of_not_mem hOld, List.tail_cons, List.tail_cons]

/-- The first line with a character is the header if no line ends before it. -/
theorem newline_not_mem_takeWhile_iff {c : Char} {t : Text} (hFeed : c ≠ '\n') (hMem : c ∈ t) :
    '\n' ∉ t.takeWhile (· != c) ↔ c ∈ firstLine t := by
  obtain ⟨a, b, rfl, hNone⟩ := List.eq_append_cons_of_mem hMem
  have hTake : (a ++ c :: b).takeWhile (· != c) = a := by
    rw [(takeWhile_bne_append hNone (c :: b)).1]
    simp
  rw [hTake]
  constructor
  · intro hOpen
    rw [firstLine_append hOpen]
    simp [firstLine, hFeed]
  · intro hFirst hEnds
    obtain ⟨l, r, rfl, hLine⟩ := List.eq_append_cons_of_mem hEnds
    rw [List.append_assoc, List.cons_append, firstLine_append_feed hLine] at hFirst
    exact hNone (by simp [hFirst])

end Text

namespace Fix

/-! ## The part that gives way -/

/-- Putting in a type puts one part of a text in place of another.  A line ends in
the old part only if the text is cut at a colon below the header. -/
theorem exists_putType_append (k : CommitType) {t : Text} (hTrim : trim t = t)
    (hInk : blank t = false) :
    ∃ new old rest, putType k t = new ++ rest ∧ t = old ++ rest ∧
      k.name <+: new ∧ '\n' ∉ new ∧
      ('\n' ∉ old ↔
        (Header.parse (firstLine t)).type ≠ none ∨ ':' ∈ firstLine t ∨ ':' ∉ t) := by
  have hParts : (Message.reading t).parts = Header.parse (firstLine t) := by
    rw [Message.parts_reading, hTrim]
  have hName := k.newline_not_mem_name
  cases hType : (Header.parse (firstLine t)).type with
  | some found =>
      have hFound : (Message.reading t).parts.type = some found := by rw [hParts, hType]
      obtain ⟨⟨c, hc, hLetter⟩, y, hSplit⟩ := Message.exists_append_of_type hFound
      have hHead : c ∈ t.head? := by
        rw [← hTrim, hSplit, List.head?_append, Option.mem_def.1 hc]
        rfl
      refine ⟨k.name, t.takeWhile isLetter, t.dropWhile isLetter,
        putType_of_letter k (by rw [hFound]; rfl) ⟨c, hHead, hLetter⟩,
        List.takeWhile_append_dropWhile.symm, List.prefix_refl _, hName, ?_⟩
      refine iff_of_true ?_ (Or.inl (by simp))
      intro hMem
      exact absurd (List.mem_takeWhile_imp hMem) (by decide)
  | none =>
      have hNone : (Message.reading t).parts.type = none := by rw [hParts, hType]
      have hPut := putType_of_untyped k hInk hNone
      by_cases hColon : ':' ∈ t
      · have hDrop : t.dropWhile (· != ':') ≠ [] := by
          rw [Ne, List.dropWhile_eq_nil_iff]
          intro hAll
          exact absurd (hAll ':' hColon) (by decide)
        rw [if_neg hDrop] at hPut
        refine ⟨k.name, t.takeWhile (· != ':'), t.dropWhile (· != ':'), hPut,
          List.takeWhile_append_dropWhile.symm, List.prefix_refl _, hName, ?_⟩
        rw [newline_not_mem_takeWhile_iff (by decide) hColon]
        simp [hColon]
      · have hDrop : t.dropWhile (· != ':') = [] := by
          simpa using (takeWhile_bne_append hColon []).2
        rw [if_pos hDrop, hTrim] at hPut
        refine ⟨k.name ++ [':', ' '], [], t, by simpa using hPut, rfl,
          List.prefix_append _ _, ?_, ?_⟩
        · simp [hName]
        · simp [hColon]

/--
**A decision for the type and the lines below the header**: the header begins with
the type that was decided on.  The lines below it stay as they are exactly if the
header had a type, or holds a colon, or no line holds one; otherwise the text is cut
at a colon further down.
-/
theorem tail_lines_choose_iff (k : CommitType) {t : Text} (hTrim : trim t = t)
    (hInk : blank t = false) :
    let fixed := apply ⟨some k⟩ (.choose .type) t
    k.name <+: firstLine fixed ∧
      ((lines fixed).tail = (lines t).tail ↔
        (Header.parse (firstLine t)).type ≠ none ∨ ':' ∈ firstLine t ∨ ':' ∉ t) := by
  intro fixed
  obtain ⟨new, old, rest, hPut, hSplit, hName, hFeed, hOld⟩ := exists_putType_append k hTrim hInk
  have hFixed : fixed = new ++ rest := hPut
  rw [hFixed]
  constructor
  · rw [firstLine_append hFeed]
    exact hName.trans (List.prefix_append _ _)
  · rw [← hOld, ← tail_lines_append_iff hFeed old rest, ← hSplit]

/-- A header without a type is cut at its own colon, whatever stands below. -/
theorem tail_lines_choose_own_colon :
    let t : Text := "42: answer\n\nsee: below".toList
    let fixed := apply ⟨some .docs⟩ (.choose .type) t
    trim t = t ∧ blank t = false ∧ CommitType.docs.name <+: firstLine fixed ∧
      (lines fixed).tail = (lines t).tail := by
  intro t fixed
  have hTrim : trim t = t := by decide
  have hInk : blank t = false := by decide
  obtain ⟨hName, hLines⟩ := tail_lines_choose_iff .docs hTrim hInk
  exact ⟨hTrim, hInk, hName, hLines.2 (Or.inr (Or.inl (by decide)))⟩

/-- A decision does not keep the lines below the header: a colon in the body takes
the place of the missing one, and what stands before it is gone. -/
theorem tail_lines_choose_ne :
    let t : Text := "42 answers\n\nNote: more".toList
    trim t = t ∧ blank t = false ∧
      apply ⟨some .docs⟩ (.choose .type) t = "docs: more".toList ∧
      (lines (apply ⟨some .docs⟩ (.choose .type) t)).tail ≠ (lines t).tail := by
  decide

end Fix

end CommitLint
