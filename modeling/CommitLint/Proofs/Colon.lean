import CommitLint.Proofs.KnownType
import CommitLint.Proofs.Layout

/-!
# Where a colon is lost

Up to the long lines a pass leaves every header with a colon, once all decisions
have been made: a missing one is put in, and no other fix takes one away.
Wrapping the header can take it away again.  It breaks the line between words,
and a scope may hold spaces, so the break can come before the parenthesis that
closes the scope; what is left on the first line has then neither a scope nor a
colon.

`colonPresent_fixAll_iff` says exactly when the colon stays: when the header is
not wrapped, or when words that fit on one line together reach as far as the
colon.

Main results: `colonPresent_fixAll_iff`, `colonPresent_fixAll_creates`.
-/

namespace CommitLint

open Text

/-! ## A colon stays when a line grows -/

namespace Header

/-- Text after a sealed opening with a colon belongs to the subject. -/
theorem Opening.Sealed.append_subject {o : Opening} (h : o.Sealed) {b r : Text}
    (hBlank : blank b = true) (hRest : o.rest = b ++ ':' :: r) (x : Text) :
    Opening.Sealed { o with rest := o.rest ++ x } := by
  obtain ⟨d, ds, hCons⟩ : ∃ d ds, o.rest = d :: ds :=
    List.exists_cons_of_ne_nil (by simp [hRest])
  refine
    { type_ne_nil := h.type_ne_nil
      letters := h.letters
      scope_closed := h.scope_closed
      rest_head := ?_
      rest_scope := ?_ }
  · intro hScope c hc
    apply h.rest_head hScope c
    simpa [hCons] using hc
  · intro _
    rw [scope?_eq_none_iff]
    intro s hs
    exfalso
    have hParen : d = '(' := by
      rw [hCons, List.cons_append] at hs
      exact (List.cons.inj hs).1
    cases b with
    | nil =>
        have hColon : d = ':' := (List.cons.inj (hCons.symm.trans hRest)).1
        rw [hParen] at hColon
        exact absurd hColon (by decide)
    | cons e es =>
        have hGap : d = e := (List.cons.inj (hCons.symm.trans hRest)).1
        have hInk := blank_of_mem hBlank (c := e) (by simp)
        rw [← hGap, hParen] at hInk
        exact absurd hInk (by decide)

/-- A line that has a colon keeps it when it is continued. -/
theorem hasColon_of_isPrefix {line line' : Text} (hPrefix : line <+: line')
    (hColon : (parse line).hasColon = true) : (parse line').hasColon = true := by
  obtain ⟨x, rfl⟩ := hPrefix
  cases hOpening : opening? line with
  | none =>
      rw [parse_of_no_opening hOpening] at hColon
      contradiction
  | some o =>
      obtain ⟨hSealed, hLine⟩ := opening?_eq_some_iff.1 hOpening
      rw [parse_of_opening hOpening] at hColon
      rcases separated_cases o.rest with ⟨b, r, hBlank, hRest⟩ | hNone
      · have hLonger : opening? (line ++ x) = some { o with rest := o.rest ++ x } := by
          rw [opening?_eq_some_iff]
          refine ⟨hSealed.append_subject hBlank hRest x, ?_⟩
          simp [hLine, Opening.toText]
        have hSeparated := separated_of_colon hBlank (r ++ x)
        rw [parse_of_opening hLonger]
        simp [hRest, hSeparated]
      · rw [separated_of_no_colon hNone] at hColon
        contradiction

end Header

/-! ## The first line under wrapping -/

variable {t : Text} {c : Choices}

theorem firstLine_wrapAll_of_pos {ks : List Nat} (hPositive : ∀ k ∈ ks, 0 < k) (s : Text) :
    firstLine (wrapAll s ks) = firstLine s := by
  induction ks generalizing s with
  | nil => rfl
  | cons k ks ih =>
      obtain ⟨j, rfl⟩ : ∃ j, k = j + 1 := ⟨k - 1, by have := hPositive k (by simp); omega⟩
      rw [wrapAll_cons, ih (fun i hi => hPositive i (by simp [hi])), firstLine_wrapLineAt_succ]

/-- The header is wrapped if it was too long before the pass, and no other wrap
changes it. -/
theorem firstLine_fixAll (c : Choices) (hInk : blank t = false) :
    firstLine (fixAll c t) =
      if Rule.lineWarn < (firstLine (trim t)).length then
        firstLine (Wrap.wrap Fix.wrapWidth (firstLine (unwrapped c t)))
      else firstLine (unwrapped c t) := by
  have hLines : (Message.reading t).lines =
      firstLine (trim t) :: (Message.reading t).lines.tail := Message.lines_trim t
  have hBelow : ∀ k ∈ longFrom 1 (Message.reading t).lines.tail, 0 < k := fun k hk =>
    le_of_mem_longFrom hk
  rw [fixAll_eq_wrapAll c hInk, Message.long, hLines, longFrom, Nat.zero_add]
  by_cases hLong : Rule.lineWarn < (firstLine (trim t)).length
  · rw [if_pos hLong, if_pos hLong, wrapAll_cons, firstLine_wrapAll_of_pos hBelow,
      firstLine_wrapLineAt_zero]
  · rw [if_neg hLong, if_neg hLong, firstLine_wrapAll_of_pos hBelow]

/-- After a pass a missing colon is reported exactly when the first line has
none. -/
theorem selects_colonPresent_fixAll (hInk : blank t = false)
    (hChoice : requiresChoice (lint t) = true → c.type.isSome = true) :
    selects (lint (fixAll c t)) .colonPresent =
      !(Header.parse (firstLine (fixAll c t))).hasColon := by
  obtain ⟨k, hBegins⟩ := exists_begins_unwrapped hInk hChoice
  obtain ⟨hAfter, k', hType⟩ := exists_type_fixAll hInk hChoice
  have hHead := (KeepsHead.wrapAll hBegins.head?_firstLine (Message.reading t).long).1
  rw [← fixAll_eq_wrapAll c hInk] at hHead
  have hParts : (Message.reading (fixAll c t)).parts =
      Header.parse (firstLine (fixAll c t)) := by
    rw [Message.parts_reading, parse_firstLine_trim hHead]
  rw [lint_eq_issues hAfter, Message.selects_colonPresent, Message.lacksColon, hType, hParts,
    Option.isSome_some, Bool.true_and]

/--
**When a pass leaves a colon**: once every decision has been made, no colon is
missing after a pass exactly if the header was short enough not to be wrapped,
or some of its first words, as they stand before wrapping, fit on one line and
have a colon.
-/
theorem colonPresent_fixAll_iff (c : Choices) (t : Text) (hInk : blank t = false)
    (hChoice : requiresChoice (lint t) = true → c.type.isSome = true) :
    selects (lint (fixAll c t)) .colonPresent = false ↔
      (firstLine (trim t)).length ≤ 75 ∨
        ∃ ws, ws <+: words (firstLine (unwrapped c t)) ∧ Wrap.Fits Fix.wrapWidth ws ∧
          (Header.parse (Wrap.joined ws)).hasColon = true := by
  obtain ⟨k, hBegins⟩ := exists_begins_unwrapped hInk hChoice
  rw [selects_colonPresent_fixAll hInk hChoice, Bool.not_eq_false', firstLine_fixAll c hInk]
  by_cases hLong : Rule.lineWarn < (firstLine (trim t)).length
  · obtain ⟨d, hd, hdInk⟩ := hBegins.head?_firstLine
    have hLine : blank (firstLine (unwrapped c t)) = false :=
      not_blank_of_mem (List.mem_of_mem_head? hd) hdInk
    obtain ⟨us, hFirst, hInitial, hFits, hMost⟩ := Wrap.exists_firstLine_wrap Fix.wrapWidth hLine
    have hNotShort : ¬ (firstLine (trim t)).length ≤ 75 := Nat.not_le.2 hLong
    rw [if_pos hLong, hFirst, or_iff_right hNotShort]
    constructor
    · intro hColon
      exact ⟨us, hInitial, hFits, hColon⟩
    · rintro ⟨ws, hws, hwsFits, hColon⟩
      have hWithin := Wrap.joined_isPrefix (hMost ws hws hwsFits)
      exact Header.hasColon_of_isPrefix hWithin hColon
  · have hShort : (firstLine (trim t)).length ≤ 75 := Nat.le_of_not_lt hLong
    rw [if_neg hLong]
    exact ⟨fun _ => Or.inl hShort, fun _ => hBegins.parse_firstLine.2⟩

/-- A long header without a colon gets one, and its scope keeps it. -/
theorem colonPresent_fixAll_long_header :
    let t : Text := Wrap.joined ("feat(ui)".toList :: List.replicate 20 "word".toList)
    selects (lint t) .colonPresent = true ∧
      selects (lint (fixAll .undecided t)) .colonPresent = false := by
  intro t
  have hBefore : selects (lint t) .colonPresent = true := by decide +kernel
  refine ⟨hBefore, ?_⟩
  rw [colonPresent_fixAll_iff .undecided t (by decide +kernel) (by decide +kernel)]
  exact Or.inr ⟨["feat(ui):".toList], by decide +kernel, Or.inl rfl, by decide +kernel⟩

/-- A pass can lose the colon of a message that passes: its scope is well formed,
and is cut in two when the header is wrapped. -/
theorem colonPresent_fixAll_creates :
    let t : Text := "feat(a".toList ++ spaced (List.replicate 14 "-bcd".toList) ++ "): add".toList
    blank t = false ∧ requiresChoice (lint t) = false ∧ (verdict t).1 = true ∧
      selects (lint t) .colonPresent = false ∧
      selects (lint (fixAll .undecided t)) .colonPresent = true := by
  decide +kernel

end CommitLint
