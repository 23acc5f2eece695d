import CommitLint.Fix
import CommitLint.Proofs.IssueList

/-!
# What each fix does to a message with a type

A message whose header begins with a type is seen here as an opening and the
lines below the header: `Opens o rest t` says that `t` is the text they make up.
Each fix that works on the header changes one part of the opening, and the fix
for a crowded header changes the lines below it only.  The fixes are stated in
this form one by one, so that whoever applies several of them in a row has to
follow an opening and never a text.

The last section reads a text in this form: its parts are those of the opening,
and its further lines are the lines below the header.
-/

namespace CommitLint

open Text

/-! ## Texts as an opening and lines -/

/-- A text is made up of an opened header and the lines below it. -/
structure Opens (o : Header.Opening) (rest : List Text) (t : Text) : Prop where
  sealed : o.Sealed
  noFeed : ∀ l ∈ o.toText :: rest, '\n' ∉ l
  text_eq : t = unlines (o.toText :: rest)

theorem unlines_append_head (s l : Text) (ls : List Text) :
    unlines ((s ++ l) :: ls) = s ++ unlines (l :: ls) := by
  cases ls with
  | nil => simp
  | cons m ms => simp

theorem beginsCaseless_append (s x : Text) : beginsCaseless s (s ++ x) = true := by
  induction s with
  | nil => rfl
  | cons c cs ih => simp [beginsCaseless, sameLetter, ih]

/-- A line that is not blank is set off from the header. -/
theorem separateBody_unlines {header l : Text} {rest : List Text}
    (hFeed : ∀ k ∈ header :: l :: rest, '\n' ∉ k) (hInk : blank l = false) :
    Fix.separateBody (unlines (header :: l :: rest)) = unlines (header :: [] :: l :: rest) := by
  rw [Fix.separateBody, lines_unlines (by simp) hFeed]
  simp [hInk]

theorem newline_not_letter : isLetter '\n' = false := by decide

namespace Opens

variable {o : Header.Opening} {rest : List Text} {t : Text}

/-- The text after the type. -/
def afterType (o : Header.Opening) (rest : List Text) : Text :=
  unlines ((Header.bracketed o.scope ++ o.rest) :: rest)

theorem eq_type_append (h : Opens o rest t) : t = o.type ++ afterType o rest := by
  rw [h.text_eq, afterType, Header.Opening.toText, List.append_assoc, unlines_append_head]

theorem head?_afterType (h : Opens o rest t) :
    ∀ c ∈ (afterType o rest).head?, isLetter c = false := by
  intro c hc
  cases hAfter : Header.bracketed o.scope ++ o.rest with
  | nil =>
      cases rest with
      | nil => simp [afterType, hAfter] at hc
      | cons l ls =>
          have hFeed : c = '\n' := by simpa [afterType, hAfter] using hc.symm
          rw [hFeed]
          exact newline_not_letter
  | cons d ds =>
      have hcd : c = d := by
        cases rest with
        | nil => simpa [afterType, hAfter] using hc.symm
        | cons l ls => simpa [afterType, hAfter] using hc.symm
      exact Header.head?_after_type h.sealed c (by simp [hAfter, hcd])

theorem takeWhile_type (h : Opens o rest t) :
    t.takeWhile isLetter = o.type ∧ t.dropWhile isLetter = afterType o rest := by
  rw [h.eq_type_append]
  exact Header.takeWhile_letters h.sealed.letters h.head?_afterType

theorem head?_header (h : Opens o rest t) :
    ∃ c ∈ o.toText.head?, isLetter c = true := by
  cases hType : o.type with
  | nil => exact absurd hType h.sealed.type_ne_nil
  | cons c cs =>
      refine ⟨c, by simp [Header.Opening.toText, hType], ?_⟩
      exact h.sealed.letters c (by simp [hType])

theorem lines_eq (h : Opens o rest t) : lines t = o.toText :: rest := by
  rw [h.text_eq]
  exact lines_unlines (by simp) h.noFeed

theorem firstLine_eq (h : Opens o rest t) : firstLine t = o.toText :=
  firstLine_of_lines h.lines_eq

theorem mapFirstLine (h : Opens o rest t) (f : Text → Text) :
    Text.mapFirstLine f t = unlines (f o.toText :: rest) := by
  rw [Text.mapFirstLine, h.lines_eq]

/-- The same message with another opening. -/
theorem replace (h : Opens o rest t) {p : Header.Opening} (hSealed : p.Sealed)
    (hFeed : '\n' ∉ p.toText) : Opens p rest (unlines (p.toText :: rest)) := by
  refine
    { sealed := hSealed
      noFeed := ?_
      text_eq := rfl }
  intro l hl
  rcases List.mem_cons.1 hl with rfl | hl
  · exact hFeed
  · exact h.noFeed l (by simp [hl])

theorem newline_not_mem_rest (h : Opens o rest t) : '\n' ∉ o.rest := by
  intro hMem
  exact h.noFeed o.toText (by simp) (by simp [Header.Opening.toText, hMem])

/-- The same message with another text after the scope.  Only when there is no
scope can the new text matter to how the header opens. -/
theorem replace_rest (h : Opens o rest t) {r : Text} (hFeed : '\n' ∉ r)
    (hHead : o.scope = none → ∀ c ∈ r.head?, isLetter c = false)
    (hScope : o.scope = none → Header.scope? r = none) :
    Opens { o with rest := r } rest
      (unlines ((o.type ++ Header.bracketed o.scope ++ r) :: rest)) := by
  refine h.replace (p := { o with rest := r })
    { type_ne_nil := h.sealed.type_ne_nil
      letters := h.sealed.letters
      scope_closed := h.sealed.scope_closed
      rest_head := hHead
      rest_scope := hScope } ?_
  have hOld := h.noFeed o.toText (by simp)
  simp only [Header.Opening.toText, List.mem_append, not_or] at hOld ⊢
  exact ⟨hOld.1, hFeed⟩

/-- The same message with the name of a type in place of its type. -/
theorem replace_type (h : Opens o rest t) (k : CommitType) :
    Opens { o with type := k.name } rest (k.name ++ afterType o rest) := by
  have hNew := h.replace (p := { o with type := k.name })
    { type_ne_nil := k.name_ne_nil
      letters := fun c hc => CommitType.isLetter_of_mem_name hc
      scope_closed := h.sealed.scope_closed
      rest_head := h.sealed.rest_head
      rest_scope := h.sealed.rest_scope } (by
        have hOld := h.noFeed o.toText (by simp)
        simp only [Header.Opening.toText, List.mem_append, not_or] at hOld ⊢
        exact ⟨⟨k.newline_not_mem_name, hOld.1.2⟩, hOld.2⟩)
  rw [hNew.eq_type_append] at hNew
  exact hNew

/-! ## One fix at a time -/

/-- Writing the type in lower case gives the name of a type. -/
theorem lowercaseHead (h : Opens o rest t) {k : CommitType} (hCase : lower o.type = k.name) :
    Opens { o with type := k.name } rest (Fix.lowercaseHead o.type t) := by
  have hText : Fix.lowercaseHead o.type t = k.name ++ afterType o rest := by
    rw [Fix.lowercaseHead, h.eq_type_append, if_pos (beginsCaseless_append _ _), hCase]
    simp
  rw [hText]
  exact h.replace_type k

theorem type_isNone_eq_false (h : Opens o rest t) :
    blank t = false ∧ (Message.reading t).parts.type.isNone = false := by
  obtain ⟨c, hc, hLetter⟩ := h.head?_header
  have hInk := Header.isBlank_eq_false_of_isLetter hLetter
  have hHead : c ∈ t.head? := by
    rw [h.text_eq]
    exact mem_head?_unlines hc rest
  refine ⟨not_blank_of_mem (List.mem_of_mem_head? hHead) hInk, ?_⟩
  rw [Message.type_reading]
  cases hOpening : Header.opening? (firstLine (trim t)) with
  | none =>
      rw [Header.opening?_eq_none_iff] at hOpening
      rw [hOpening c (head?_firstLine_trim hHead hInk)] at hLetter
      contradiction
  | some p => rfl

theorem putType (h : Opens o rest t) (k : CommitType) :
    Opens { o with type := k.name } rest (Fix.putType k t) := by
  obtain ⟨hInk, hType⟩ := h.type_isNone_eq_false
  have hText : Fix.putType k t = k.name ++ afterType o rest := by
    rw [Fix.putType, Message.parse?_eq_reading hInk]
    simp only [hType, Bool.false_eq_true, if_false]
    rw [h.takeWhile_type.1, h.takeWhile_type.2]
    split
    · rename_i hNil
      exact absurd hNil h.sealed.type_ne_nil
    · rfl
  rw [hText]
  exact h.replace_type k

theorem addColon (h : Opens o rest t) :
    Opens { o with rest := ':' :: ' ' :: trim o.rest } rest
      (Text.mapFirstLine Fix.addColon t) := by
  have hLine : Fix.addColon o.toText =
      o.type ++ Header.bracketed o.scope ++ ':' :: ' ' :: trim o.rest := by
    rw [Fix.addColon, h.sealed.opening?]
  rw [h.mapFirstLine, hLine]
  refine h.replace_rest ?_ (fun _ => by simp; decide) (fun _ => rfl)
  have hTrim : '\n' ∉ trim o.rest := fun hMem =>
    h.newline_not_mem_rest (trim_subset _ hMem)
  simp only [List.mem_cons, not_or]
  exact ⟨by decide, by decide, hTrim⟩

theorem chopPeriod (h : Opens o rest t) (hLast : (trimEnd o.rest).getLast? = some '.') :
    Opens { o with rest := (trimEnd o.rest).dropLast } rest
      (Text.mapFirstLine Fix.chopPeriod t) := by
  have hNe : trimEnd o.rest ≠ [] := by
    intro hNil
    simp [hNil] at hLast
  have hInk : blank o.rest = false := by
    cases hBlank : blank o.rest with
    | false => rfl
    | true => exact absurd (trimEnd_of_blank hBlank) hNe
  have hPrefix : (trimEnd o.rest).dropLast <+: o.rest :=
    (List.dropLast_prefix _).trans (trimEnd_isPrefix _)
  have hLine : Fix.chopPeriod o.toText =
      o.type ++ Header.bracketed o.scope ++ (trimEnd o.rest).dropLast := by
    have hKept : trimEnd o.toText =
        o.type ++ Header.bracketed o.scope ++ trimEnd o.rest := trimEnd_append _ hInk
    simp only [Fix.chopPeriod, hKept]
    rw [List.getLast?_append, hLast, Option.some_or, if_pos rfl,
      List.dropLast_append_of_ne_nil hNe]
  rw [h.mapFirstLine, hLine]
  refine h.replace_rest (fun hMem => h.newline_not_mem_rest (hPrefix.subset hMem)) ?_ ?_
  · intro hScope c hc
    exact h.sealed.rest_head hScope c (mem_head?_of_isPrefix hPrefix hc)
  · intro hScope
    exact Header.scope?_of_isPrefix hPrefix (h.sealed.rest_scope hScope)

theorem separateBody {l : Text} {ls : List Text} (h : Opens o (l :: ls) t)
    (hInk : blank l = false) : Opens o ([] :: l :: ls) (Fix.separateBody t) := by
  have hText : Fix.separateBody t = unlines (o.toText :: [] :: l :: ls) := by
    rw [h.text_eq]
    exact separateBody_unlines h.noFeed hInk
  refine
    { sealed := h.sealed
      noFeed := ?_
      text_eq := hText }
  intro k hk
  simp only [List.mem_cons] at hk
  rcases hk with rfl | rfl | hk
  · exact h.noFeed _ (by simp)
  · simp
  · exact h.noFeed k (by simp [hk])

/-! ## Reading the result -/

/-- Reading gives back the opening, and the further lines as they stand. -/
theorem reading (h : Opens o rest t)
    (hLast : rest ≠ [] → ∃ l ∈ rest.getLast?, ∃ c ∈ l.getLast?, isBlank c = false) :
    (Message.reading t).parts = Header.parse o.toText ∧
      (Message.reading t).lines.tail = rest := by
  obtain ⟨c, hc, hLetter⟩ := h.head?_header
  have hHead : ∃ c ∈ o.toText.head?, isBlank c = false :=
    ⟨c, hc, Header.isBlank_eq_false_of_isLetter hLetter⟩
  have hLines := lines_trim_unlines h.noFeed hHead hLast
  rw [← h.text_eq] at hLines
  have hFirst := firstLine_of_lines hLines
  constructor
  · rw [Message.parts_reading, hFirst]
    by_cases hRest : rest = []
    · rw [if_pos hRest, Header.parse_trimEnd]
    · rw [if_neg hRest]
  · rw [Message.reading, hLines, List.tail_cons]

/-- A text opens as its first line does. -/
theorem of_opening (hOpening : Header.opening? (firstLine t) = some o) :
    Opens o (lines t).tail t := by
  obtain ⟨hSealed, hFirst⟩ := Header.opening?_eq_some_iff.1 hOpening
  obtain ⟨below, hBelow⟩ := lines_eq_cons t
  have hLines : lines t = o.toText :: (lines t).tail := by rw [hBelow, hFirst, List.tail_cons]
  exact
    { sealed := hSealed
      noFeed := by
        rw [← hLines]
        exact fun l hl => newline_not_mem_of_mem_lines hl
      text_eq := by rw [← hLines, unlines_lines] }

end Opens

/-- A text whose header has a type opens as its header does. -/
theorem Message.exists_opens {t s : Text} (hType : (reading t).parts.type = some s) :
    ∃ o : Header.Opening, o.type = s ∧ (reading t).header = o.toText ∧
      Opens o (reading t).lines.tail (trim t) := by
  rw [type_reading, Option.map_eq_some_iff] at hType
  obtain ⟨o, hOpening, hEq⟩ := hType
  exact ⟨o, hEq, (Header.opening?_eq_some_iff.1 hOpening).2, Opens.of_opening hOpening⟩

end CommitLint
