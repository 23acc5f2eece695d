import CommitLint.Proofs.Pass

/-!
# What a pass of repairs keeps

A pass without a decision works with indices that were counted before the text
changed, takes gaps apart and puts others in, and writes the header anew.  All
of this moves blank characters only.  What is left when they are taken away is
the ink of the old header, with the three edits that the issues ask for, and
then the ink of the other lines in their order.

`expectedHeader` states the three edits on the header as it stands, without a
word about how the fixes carry them out.

Main results: `Message.ink_mended`, `ink_repairAll`.
-/

namespace CommitLint

open Text

/-! ## The last character that is not blank -/

namespace Text

/-- A text is blank, or its last character that is not blank can be named. -/
theorem lastInk_cases (t : Text) :
    blank t = true ∨ ∃ s c, trimEnd t = s ++ [c] ∧ isBlank c = false := by
  cases hBlank : blank t with
  | true => exact Or.inl rfl
  | false =>
      right
      cases hLast : (trimEnd t).getLast? with
      | none =>
          rw [List.getLast?_eq_none_iff] at hLast
          rw [← blank_trimEnd, hLast] at hBlank
          contradiction
      | some c =>
          obtain ⟨s, hs⟩ := List.getLast?_eq_some_iff.1 hLast
          exact ⟨s, c, hs, getLast?_trimEnd hLast⟩

theorem ink_append_singleton (s : Text) {c : Char} (hInk : isBlank c = false) :
    ink (s ++ [c]) = ink s ++ [c] := by
  rw [ink_append, ink_of_solid (w := [c])]
  intro d hd
  rw [List.mem_singleton.1 hd]
  exact hInk

theorem getLast?_ink (t : Text) : (ink t).getLast? = (trimEnd t).getLast? := by
  rcases lastInk_cases t with hBlank | ⟨s, c, hEnd, hInk⟩
  · rw [(ink_eq_nil_iff t).2 hBlank, trimEnd_of_blank hBlank]
  · rw [← ink_trimEnd, hEnd, ink_append_singleton s hInk]
    simp

theorem ink_dropLast_trimEnd (t : Text) : ink (trimEnd t).dropLast = (ink t).dropLast := by
  rcases lastInk_cases t with hBlank | ⟨s, c, hEnd, hInk⟩
  · rw [(ink_eq_nil_iff t).2 hBlank, trimEnd_of_blank hBlank]
    rfl
  · rw [← ink_trimEnd t, hEnd, ink_append_singleton s hInk]
    simp

theorem getLast?_ink_append (s : Text) {t : Text} {c : Char}
    (hLast : (ink t).getLast? = some c) : (ink (s ++ t)).getLast? = some c := by
  rw [ink_append, List.getLast?_append, hLast]
  rfl

theorem isBlank_period : isBlank '.' = false := by decide

/-- A character that is not blank occurs in the ink as often as in the text. -/
theorem count_ink {c : Char} (hInk : isBlank c = false) (t : Text) :
    (ink t).count c = t.count c := List.count_filter (by simp [hInk])

theorem ink_cons (c : Char) (t : Text) :
    ink (c :: t) = if isBlank c then ink t else c :: ink t := by
  cases hBlank : isBlank c <;> simp [ink, hBlank]

theorem ink_colon (t : Text) : ink (':' :: t) = ':' :: ink t := by
  rw [ink_cons, if_neg (by decide)]

theorem ink_space (t : Text) : ink (' ' :: t) = ink t := by
  rw [ink_cons, if_pos (by decide)]

end Text

/-! ## The edits -/

/-- The letters at the head of a line in lower case. -/
def lowerLetters (line : Text) : Text := lower (line.takeWhile isLetter) ++ line.dropWhile isLetter

/-- A colon right after the type and the scope of a line. -/
def colonAfterOpening (line : Text) : Text :=
  match Header.opening? line with
  | none => line
  | some o => o.type ++ Header.bracketed o.scope ++ ':' :: o.rest

/-- An issue whose fix is to write the type in lower case. -/
def Issue.lowersType (i : Issue) : Bool :=
  match i.fix with
  | some (.lowercaseType _) => true
  | _ => false

/-- A header with the edits that issues ask for. -/
def expectedHeader (issues : List Issue) (header : Text) : Text :=
  let typed := if issues.any Issue.lowersType then lowerLetters header else header
  let separated := if selects issues .colonPresent then colonAfterOpening typed else typed
  if selects issues .noFinalPeriod then (trimEnd separated).dropLast else separated

namespace Message

variable (m : Message)

/-- A rule with one condition finds something when the condition holds. -/
theorem selects_of_check_eq {r : Rule} {b : Bool} {i : Issue}
    (hCheck : r.check m = if b then [i] else []) : selects m.issues r = b := by
  rw [selects_issues, hCheck]
  cases b <;> rfl

theorem selects_colonPresent : selects m.issues .colonPresent = m.lacksColon :=
  m.selects_of_check_eq rfl

theorem selects_noFinalPeriod : selects m.issues .noFinalPeriod = m.endsInPeriod :=
  m.selects_of_check_eq rfl

theorem selects_blankLine : selects m.issues .blankLine = crowdsHeader m.lines :=
  m.selects_of_check_eq rfl

theorem any_lowersType : m.issues.any Issue.lowersType = m.miscased?.isSome := by
  rw [Bool.eq_iff_iff, List.any_eq_true]
  constructor
  · rintro ⟨i, hi, hLowers⟩
    cases hFix : i.fix with
    | none => simp [Issue.lowersType, hFix] at hLowers
    | some f =>
        rcases fix_cases hi hFix with rfl | ⟨found, -, hCase⟩ | ⟨rfl, -⟩ | ⟨rfl, -⟩ |
          ⟨rfl, -⟩ | ⟨k, l, rfl, -⟩
        · simp [Issue.lowersType, hFix] at hLowers
        · rw [hCase]
          rfl
        · simp [Issue.lowersType, hFix] at hLowers
        · simp [Issue.lowersType, hFix] at hLowers
        · simp [Issue.lowersType, hFix] at hLowers
        · simp [Issue.lowersType, hFix] at hLowers
  · intro hCase
    obtain ⟨found, hFound⟩ := Option.isSome_iff_exists.1 hCase
    obtain ⟨hType, hName, k, hLower⟩ := miscased?_eq_some_iff.1 hFound
    have hAny : CommitType.ofAnyCase? found = some k := by
      rw [CommitType.ofAnyCase?, CommitType.ofName?_eq_some_iff]
      exact hLower
    have hCheck : ∃ i ∈ Rule.checkKnownType m, i.fix = some (.lowercaseType found) := by
      unfold Rule.checkKnownType
      rw [hType]
      dsimp only
      rw [if_neg (by simp [hName]), if_pos (by simp [hAny])]
      exact ⟨_, List.mem_singleton.2 rfl, rfl⟩
    obtain ⟨i, hi, hFix⟩ := hCheck
    refine ⟨i, mem_issues.2 ⟨.knownType, hi⟩, ?_⟩
    simp [Issue.lowersType, hFix]

end Message

/-! ## The ink of a mended header -/

namespace Message

/-- The period that R6 finds is the last character of the header that is not
blank, before and after the other edits. -/
theorem getLast?_ink_of_endsInPeriod {t : Text} (hPeriod : (reading t).endsInPeriod = true) :
    (ink (firstLine (trim t))).getLast? = some '.' ∧
      (ink (reading t).separated).getLast? = some '.' := by
  obtain ⟨hAfter, hWhole⟩ := getLast?_of_endsInPeriod hPeriod
  cases hOpening : Header.opening? (firstLine (trim t)) with
  | none =>
      have hLast := hWhole hOpening
      rw [← getLast?_ink] at hLast
      rw [separated_of_no_opening hOpening]
      exact ⟨hLast, hLast⟩
  | some o =>
      have hLast := hAfter o hOpening
      rw [← getLast?_ink] at hLast
      have hNew : (ink ((reading t).reopened o).rest).getLast? = some '.' := by
        rw [reopened]
        dsimp only
        split
        · rw [ink_colon, ink_space, ink_trim, List.getLast?_cons, hLast]
          rfl
        · exact hLast
      constructor
      · rw [Header.eq_of_opening? hOpening]
        exact getLast?_ink_append _ hLast
      · rw [(opens_separated hOpening).text_eq, unlines_singleton]
        exact getLast?_ink_append _ hNew

theorem ink_mended (t : Text) :
    ink (reading t).mended =
      if (reading t).endsInPeriod then (ink (reading t).separated).dropLast
      else ink (reading t).separated := by
  rw [mended]
  split
  · rename_i hPeriod
    have hLast := (getLast?_ink_of_endsInPeriod hPeriod).2
    rw [getLast?_ink] at hLast
    simp only [Fix.chopPeriod, hLast, if_true]
    exact ink_dropLast_trimEnd _
  · rfl

/-- The header before its period is looked at, as the issues want it. -/
theorem ink_separated (t : Text) :
    ink (reading t).separated =
      ink (if (reading t).lacksColon then
          colonAfterOpening
            (if (reading t).miscased?.isSome then lowerLetters (reading t).header
              else (reading t).header)
        else if (reading t).miscased?.isSome then lowerLetters (reading t).header
        else (reading t).header) := by
  cases hOpening : Header.opening? (firstLine (trim t)) with
  | none =>
      have hType : (reading t).parts.type = none := by simp [type_reading, hOpening]
      have hCase : (reading t).miscased? = none := by simp [miscased?, hType]
      have hColon : (reading t).lacksColon = false := by simp [lacksColon, hType]
      rw [separated_of_no_opening hOpening, hCase, hColon]
      rfl
  | some o =>
      have hOld := opens_header hOpening
      have hNew := opens_separated hOpening
      have hLine := hNew.text_eq
      rw [unlines_singleton] at hLine
      rw [hLine]
      obtain ⟨T, hT⟩ : ∃ T, T = if (reading t).miscased?.isSome then lower o.type else o.type :=
        ⟨_, rfl⟩
      have hTyped : (if (reading t).miscased?.isSome then lowerLetters (reading t).header
          else (reading t).header) = ({ o with type := T } : Header.Opening).toText := by
        have hHeader := hOld.text_eq
        rw [unlines_singleton] at hHeader
        obtain ⟨hTake, hDrop⟩ := hOld.sealed.takeWhile
        rw [hT, hHeader, lowerLetters, hTake, hDrop]
        split <;> simp [Header.Opening.toText]
      have hSealed : ({ o with type := T } : Header.Opening).Sealed :=
        { type_ne_nil := hT ▸ hNew.sealed.type_ne_nil
          letters := hT ▸ hNew.sealed.letters
          scope_closed := hOld.sealed.scope_closed
          rest_head := hOld.sealed.rest_head
          rest_scope := hOld.sealed.rest_scope }
      rw [hTyped, colonAfterOpening, hSealed.opening?]
      simp only [reopened, ← hT, Header.Opening.toText]
      cases (reading t).lacksColon with
      | false => rfl
      | true => simp [ink_colon, ink_space]

end Message

/-! ## The whole pass -/

/-- The text of a pass without a decision, up to blank characters. -/
theorem ink_repairAll (t : Text) :
    ink (repairAll .undecided (trim t) (Message.reading t).issues) =
      ink (Message.reading t).mended ++ (Message.reading t).lines.tail.flatMap ink := by
  rw [repairAll_undecided, ink_wrapAll, ink_unlines, List.flatMap_cons, Message.below]
  split <;> rfl

/--
**Nothing is lost or moved**: without a decision, repairing everything leaves the
ink of the header with the edits that the issues ask for, and then the ink of
the other lines in order.  A final period that is dropped was the last
character of the header that is not blank, and a colon that is put in has a
type to stand after.
-/
theorem ink_fixAll (t : Text) :
    ink (fixAll .undecided t) =
        ink (expectedHeader (lint t) (firstLine (trim t))) ++ (lines (trim t)).tail.flatMap ink ∧
      (selects (lint t) .noFinalPeriod = true →
        (ink (firstLine (trim t))).getLast? = some '.') ∧
      (selects (lint t) .colonPresent = true →
        (Header.opening? (firstLine (trim t))).isSome = true) := by
  cases hBlank : blank t with
  | true =>
      have hNone : fixAll .undecided t = [] := by
        rw [fixAll, Message.normalize, lint_trim, lint_of_blank hBlank, trim_of_blank hBlank]
        rfl
      rw [hNone, lint_of_blank hBlank, trim_of_blank hBlank]
      exact ⟨rfl, by decide, by decide⟩
  | false =>
      rw [fixAll, Message.normalize, lint_trim, lint_eq_issues hBlank, ink_repairAll,
        expectedHeader, Message.any_lowersType, Message.selects_colonPresent,
        Message.selects_noFinalPeriod]
      refine ⟨?_, ?_, ?_⟩
      · rw [Message.ink_mended, Message.ink_separated]
        split
        · rw [ink_dropLast_trimEnd]
          rfl
        · rfl
      · intro hPeriod
        exact (Message.getLast?_ink_of_endsInPeriod hPeriod).1
      · intro hColon
        rw [Message.lacksColon, Bool.and_eq_true, Message.type_reading] at hColon
        simpa using hColon.1

/-- All three edits at once; one of two periods goes. -/
theorem ink_fixAll_three_edits :
    let t : Text := "FEAT (ui) add. .\nbody".toList
    ink (fixAll .undecided t) = "feat:(ui)add.body".toList ∧
      (ink (firstLine (trim t))).getLast? = some '.' ∧
      (Header.opening? (firstLine (trim t))).isSome = true := by
  intro t
  obtain ⟨hInk, hPeriod, hColon⟩ := ink_fixAll t
  exact ⟨hInk.trans (by decide), hPeriod (by decide), hColon (by decide)⟩

end CommitLint
