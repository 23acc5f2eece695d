import CommitLint.Proofs.SecondColon
import CommitLint.Proofs.SingleFix

/-!
# Carrying a fix out again

A fix looks for what it is to mend in the text that it is given, and `Fix.Idle` says
when it finds nothing there.  Five of the seven fixes leave a text in which they find
nothing, so to carry one of them out again changes nothing (`Fix.idle_apply`).  Each
has its own reason:

* what has been trimmed has nothing to trim;
* a type in lower case is as long as it was, so it is still the head of the text;
* once a blank line stands below the header, the line there is blank;
* the line of an index is another line after wrapping, the first of those that the old
  one was broken into, and such a line is laid out already;
* a decision for the type is the first word of a text that it was put into, and a type
  below a margin is not looked for.

The other two do not come to rest: a colon is put in wherever there is a type
(`insertColon_eq_self_iff`), and one of several periods at the end is taken off each
time.

Main results: `Fix.apply_apply`, `Fix.apply_eq_self_iff`.
-/

namespace CommitLint

open Text

/-! ## Texts with nothing to mend -/

namespace Fix

/-- The fix finds nothing to mend in the text. -/
def Idle (c : Choices) (t : Text) : Fix → Prop
  | trimEnds => trim t = t
  | lowercaseType found =>
    beginsCaseless found t = true → t.take found.length = lower found
  | insertColon => (Header.parse (firstLine t)).type = none
  | dropPeriod => (trimEnd (firstLine t)).getLast? ≠ some '.'
  | insertBlankLine => Message.crowdsHeader (lines t) = false
  | wrapLine index => ∀ l ∈ (lines t)[index]?, Wrap.wrap wrapWidth l = l
  | choose kind =>
    ∀ k ∈ c.get kind, ∀ m ∈ Message.parse? t,
      m.parts.type ≠ none ∧ (t.takeWhile isLetter ≠ [] → t.takeWhile isLetter = k.name)

/-- The fixes that leave nothing to mend behind.  The dotted capital I is the only
character whose lower case is longer; in particular a type in ASCII has none. -/
inductive Repeatable : Fix → Prop
  | trimEnds : Repeatable .trimEnds
  | lowercaseType {found : Text} (hDotted : '\u0130' ∉ found) : Repeatable (.lowercaseType found)
  | insertBlankLine : Repeatable .insertBlankLine
  | wrapLine (index : Nat) : Repeatable (.wrapLine index)
  | choose (kind : ChoiceKind) : Repeatable (.choose kind)

end Fix

/-! ## The fix for a crowded header -/

theorem separateBody_eq_self {t : Text} (hApart : Message.crowdsHeader (lines t) = false) :
    Fix.separateBody t = t := by
  unfold Fix.separateBody
  split
  · rename_i header l ls hLines
    have hBlank : blank l = true := by simpa [hLines, Message.crowdsHeader] using hApart
    rw [if_pos hBlank]
  · rfl

theorem crowdsHeader_separateBody (t : Text) :
    Message.crowdsHeader (lines (Fix.separateBody t)) = false := by
  cases hCrowd : Message.crowdsHeader (lines t) with
  | false => rw [separateBody_eq_self hCrowd, hCrowd]
  | true =>
      obtain ⟨header, l, rest, hLines, hInk⟩ := Message.exists_of_crowdsHeader hCrowd
      have hFeed : ∀ k ∈ header :: l :: rest, '\n' ∉ k := fun k hk =>
        newline_not_mem_of_mem_lines (hLines ▸ hk)
      have hBelow : ∀ k ∈ header :: [] :: l :: rest, '\n' ∉ k := by
        intro k hk
        simp only [List.mem_cons] at hFeed hk
        rcases hk with hk | rfl | hk
        · exact hFeed k (Or.inl hk)
        · exact List.not_mem_nil
        · exact hFeed k (Or.inr hk)
      rw [← unlines_lines t, hLines, separateBody_unlines hFeed hInk,
        lines_unlines (by simp) hBelow]
      rfl

/-! ## Breaking a line -/

theorem wrapLineAt_eq_self {t : Text} {k : Nat}
    (hLaid : ∀ l ∈ (lines t)[k]?, Wrap.wrap Fix.wrapWidth l = l) : Fix.wrapLineAt k t = t := by
  rcases wrapLineAt_cases k t with ⟨-, hSame⟩ | ⟨front, l, back, hLines, rfl, hNew⟩
  · exact hSame
  · have hLine : (lines t)[front.length]? = some l := by simp [hLines]
    rw [hNew, hLaid l hLine, ← hLines, unlines_lines]

/-- The line that an index has after wrapping is laid out. -/
theorem wrap_getElem?_wrapLineAt (k : Nat) (t : Text) :
    ∀ l ∈ (lines (Fix.wrapLineAt k t))[k]?, Wrap.wrap Fix.wrapWidth l = l := by
  intro x hx
  rcases wrapLineAt_cases k t with ⟨hNone, hSame⟩ | ⟨front, l, back, hLines, rfl, hNew⟩
  · rw [hSame, hNone] at hx
    cases hx
  · have hFeed : ∀ y ∈ front ++ l :: back, '\n' ∉ y := fun y hy =>
      newline_not_mem_of_mem_lines (hLines ▸ hy)
    obtain ⟨rest, hPieces⟩ := lines_eq_cons (Wrap.wrap Fix.wrapWidth l)
    rw [hNew, lines_unlines_splice (fun y hy => hFeed y (by simp [hy]))
      (fun y hy => hFeed y (by simp [hy])), hPieces] at hx
    have hFirst : firstLine (Wrap.wrap Fix.wrapWidth l) = x := by simpa using hx
    have hMem : x ∈ lines (Wrap.wrap Fix.wrapWidth l) := by rw [hPieces, hFirst]; simp
    rw [← unlines_lines (Wrap.wrap Fix.wrapWidth x), Wrap.lines_wrap_of_mem hMem,
      unlines_singleton]

/-! ## Putting in a type -/

/-- Where a type has been put in, it is the first word; only below a margin a type that
is there already stays. -/
theorem putType_cases {t : Text} (k : CommitType) (hInk : blank t = false) :
    (∃ y, Fix.putType k t = k.name ++ y ∧ ∀ d ∈ y.head?, isLetter d = false) ∨
      Fix.putType k t = t ∧ (Message.reading t).parts.type ≠ none ∧ ¬ HasType t := by
  cases hType : (Message.reading t).parts.type with
  | none =>
      left
      obtain ⟨x, hx⟩ := putType_of_type_eq_none hInk hType k
      refine ⟨':' :: x, hx, ?_⟩
      intro d hd
      obtain rfl : ':' = d := by simpa using hd
      decide
  | some found =>
      have hTyped : (Message.reading t).parts.type.isSome = true := by rw [hType]; rfl
      by_cases hHead : HasType t
      · left
        refine ⟨t.dropWhile isLetter, putType_of_letter k hTyped hHead, ?_⟩
        intro d hd
        have hStop := List.head?_dropWhile_not isLetter t
        rw [Option.mem_def.1 hd] at hStop
        exact hStop
      · right
        exact ⟨putType_of_indented k hTyped (indented_of_not_hasType hHead hType), by simp, hHead⟩

theorem takeWhile_name_append (k : CommitType) {y : Text}
    (hStop : ∀ d ∈ y.head?, isLetter d = false) : (k.name ++ y).takeWhile isLetter = k.name := by
  rw [Header.takeWhile_isLetter_append _ hStop, List.takeWhile_eq_self_iff]
  exact fun d hd => CommitType.isLetter_of_mem_name hd

theorem takeWhile_isLetter_eq_nil {t : Text} (h : ¬ HasType t) : t.takeWhile isLetter = [] := by
  cases t with
  | nil => rfl
  | cons d ds =>
      have hLetter : isLetter d = false := by simpa [HasType] using h
      simp [hLetter]

/-- A type that is there already is put in without a trace. -/
theorem putType_eq_self {t : Text} {k : CommitType} (hInk : blank t = false)
    (hType : (Message.reading t).parts.type ≠ none)
    (hHead : t.takeWhile isLetter ≠ [] → t.takeWhile isLetter = k.name) :
    Fix.putType k t = t := by
  have hTyped : (Message.reading t).parts.type.isSome = true := Option.isSome_iff_ne_none.2 hType
  by_cases hLetter : HasType t
  · have hWord : t.takeWhile isLetter ≠ [] := by
      obtain ⟨d, hd, hOwn⟩ := hLetter
      cases t with
      | nil => cases hd
      | cons e es =>
          obtain rfl : e = d := by simpa using hd
          simp [hOwn]
    rw [putType_of_letter k hTyped hLetter, ← hHead hWord, List.takeWhile_append_dropWhile]
  · obtain ⟨found, hFound⟩ := Option.isSome_iff_exists.1 hTyped
    exact putType_of_indented k hTyped (indented_of_not_hasType hLetter hFound)

namespace Fix

variable {f : Fix}

/-! ## All fixes -/

/-- A fix that finds nothing to mend leaves the text alone. -/
theorem apply_of_idle {c : Choices} {t : Text} (h : f.Idle c t) : f.apply c t = t := by
  cases f with
  | trimEnds => exact h
  | lowercaseType found =>
      rw [apply, lowercaseHead]
      split
      · rename_i hBegins
        rw [← h hBegins, List.take_append_drop]
      · rfl
  | insertColon => exact (insertColon_eq_self_iff c t).2 h
  | dropPeriod =>
      apply mapFirstLine_eq_self
      rw [chopPeriod, if_neg h]
  | insertBlankLine => exact separateBody_eq_self h
  | wrapLine index => exact wrapLineAt_eq_self h
  | choose kind =>
      rw [apply]
      cases hChoice : c.get kind with
      | none => rfl
      | some k =>
          cases hInk : blank t with
          | true =>
              show putType k t = t
              rw [putType, (Message.parse?_eq_none_iff t).2 hInk]
          | false =>
              obtain ⟨hType, hHead⟩ := h k hChoice _ (Message.parse?_eq_reading hInk)
              exact putType_eq_self hInk hType hHead

/-- **What a fix leaves behind**: nothing that it would mend. -/
theorem idle_apply (h : f.Repeatable) (c : Choices) (t : Text) : f.Idle c (f.apply c t) := by
  cases h with
  | trimEnds => exact trim_trim t
  | @lowercaseType found hDotted =>
      intro hAgain
      have hLength : (lower found).length = found.length := length_lowerAfter hDotted []
      rw [apply, lowercaseHead] at hAgain ⊢
      split
      · rw [← hLength, List.take_left]
      · rename_i hNone
        rw [if_neg hNone] at hAgain
        exact absurd hAgain hNone
  | insertBlankLine => exact crowdsHeader_separateBody t
  | wrapLine index => exact wrap_getElem?_wrapLineAt index t
  | choose kind =>
      intro k hChoice m hRead
      have hText : apply c (.choose kind) t = putType k t := by
        rw [apply, Option.mem_def.1 hChoice]
      rw [hText] at hRead ⊢
      obtain ⟨hInk', rfl⟩ := Message.parse?_eq_some_iff.1 hRead
      cases hInk : blank t with
      | true =>
          -- a blank text gets no type, so there would be nothing to read
          rw [putType, (Message.parse?_eq_none_iff t).2 hInk, hInk] at hInk'
          cases hInk'
      | false =>
          rcases putType_cases k hInk with ⟨y, hy, hStop⟩ | ⟨hSame, hType, hNone⟩
          · rw [hy]
            refine ⟨?_, fun _ => takeWhile_name_append k hStop⟩
            exact Option.isSome_iff_ne_none.1 (hasType_name_append k y).type_reading
          · rw [hSame]
            exact ⟨hType, fun hWord => absurd (takeWhile_isLetter_eq_nil hNone) hWord⟩

/-- So the texts that such a fix leaves alone are those with nothing to mend. -/
theorem apply_eq_self_iff (h : f.Repeatable) (c : Choices) (t : Text) :
    f.apply c t = t ↔ f.Idle c t := by
  constructor
  · intro hSame
    rw [← hSame]
    exact idle_apply h c t
  · exact apply_of_idle

/--
**Once is enough**: for every text and every decision, trimming, writing a type in lower
case, setting off the body, breaking the line of an index and putting in the type leave a
text in which they find nothing to mend, and carried out on it again they give it back.
-/
theorem apply_apply (h : f.Repeatable) (c : Choices) (t : Text) :
    f.Idle c (f.apply c t) ∧ f.apply c (f.apply c t) = f.apply c t :=
  ⟨idle_apply h c t, apply_of_idle (idle_apply h c t)⟩

/-- Three characters beyond ASCII that pass for letters of a type, and a text of which
the second decision finds a type where the first one found none. -/
theorem apply_apply_of_lookalikes :
    let found := "KIS".toList
    let word := "\u212A\u0131\u017F: x".toList
    let untyped := " (api): x".toList
    let c : Choices := ⟨some .docs⟩
    (lowercaseType found).Repeatable ∧ (choose .type).Repeatable ∧
      beginsCaseless found word = true ∧ (lowercaseType found).apply c word = "kis: x".toList ∧
      (lowercaseType found).Idle c "kis: x".toList ∧
      (lowercaseType found).apply c "kis: x".toList = "kis: x".toList ∧
      (choose .type).apply c untyped = "docs: x".toList ∧
      (choose .type).apply c "docs: x".toList = "docs: x".toList := by
  intro found word untyped c
  have hCase : (lowercaseType found).Repeatable := .lowercaseType (by decide)
  have hChoice : (choose .type).Repeatable := .choose .type
  have hLower : (lowercaseType found).apply c word = "kis: x".toList := by decide +kernel
  have hPut : (choose .type).apply c untyped = "docs: x".toList := by decide +kernel
  obtain ⟨hIdle, hAgain⟩ := apply_apply hCase c word
  have hKept := (apply_apply hChoice c untyped).2
  rw [hLower] at hIdle hAgain
  rw [hPut] at hKept
  exact ⟨hCase, hChoice, by decide +kernel, hLower, hIdle, hAgain, hPut, hKept⟩

/-- Periods are taken off one at a time. -/
example : dropPeriod.apply .undecided (dropPeriod.apply .undecided "feat: a...".toList) ≠
    dropPeriod.apply .undecided "feat: a...".toList := by
  decide +kernel

end Fix

end CommitLint
