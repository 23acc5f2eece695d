import CommitLint.Proofs.Layout
import CommitLint.Proofs.Pass

/-!
# How far a header is from settled

Wrapping can cut a header short.  What is then read off the first line may have
lost its scope, or a colon that stood apart, and the next pass puts the colon
in.  `Header.unsettled` counts what may still happen to the head of a line: a
scope can be lost, a colon that is not next to the type or the scope can be put
there, and a type can be written in lower case.

A line that keeps a first part of the words of another one is at most as
unsettled.  The reason is that the number depends on words alone: the type and
the opening parenthesis stand in the first word, and a colon is next to the
closing one in a line exactly when it is in a word.

Main results: `Header.unsettled_le_of_words`, `unsettled_separated_add_le`.
-/

namespace CommitLint

open Text

namespace Header

/-- What may still happen to an opening.  Losing a scope leaves a colon to be
put in at most, so a scope counts for two. -/
def Opening.unsettled (o : Opening) : Nat :=
  (if CommitType.miscased o.type then 1 else 0) + (if o.scope.isSome then 2 else 0) +
    (if o.rest.head? = some ':' then 0 else 1)

/-- What may still happen to the head of a line. -/
def unsettled (line : Text) : Nat :=
  match opening? line with
  | none => 0
  | some o => o.unsettled

theorem unsettled_le (line : Text) : unsettled line ≤ 4 := by
  unfold unsettled
  cases opening? line with
  | none => exact Nat.zero_le _
  | some o =>
      dsimp only [Opening.unsettled]
      split <;> split <;> split <;> omega

/-! ## The closing parenthesis -/

/-- Whether a colon is next to the first closing parenthesis, if there is
one. -/
def colonAfterClosing? (t : Text) : Option Bool :=
  match t.dropWhile (· != ')') with
  | [] => none
  | _ :: r => some (r.head? == some ':')

theorem colonAfterClosing?_of_not_mem {s : Text} (hNone : ')' ∉ s) (t : Text) :
    colonAfterClosing? (s ++ t) = colonAfterClosing? t := by
  rw [colonAfterClosing?, (takeWhile_bne_append hNone t).2, ← colonAfterClosing?]

theorem colonAfterClosing?_closed {s : Text} (hClosed : ')' ∉ s) (rest : Text) :
    colonAfterClosing? (s ++ ')' :: rest) = some (rest.head? == some ':') := by
  rw [colonAfterClosing?, (takeWhile_closing hClosed rest).2]

theorem closing_not_mem_of_blank {b : Text} (hBlank : blank b = true) : ')' ∉ b := by
  intro hMem
  exact absurd (blank_of_mem hBlank hMem) (by decide)

/-- The first closing parenthesis and the character next to it are found word
by word. -/
theorem colonAfterClosing?_eq (t : Text) :
    colonAfterClosing? t = (words t).findSome? colonAfterClosing? := by
  induction t using word_induction with
  | hBlank b hb =>
      have h := colonAfterClosing?_of_not_mem (closing_not_mem_of_blank hb) []
      rw [List.append_nil] at h
      rw [h, words_of_blank hb]
      rfl
  | hWord b w r hb hw hSolid hEnd ih =>
      rw [colonAfterClosing?_of_not_mem (closing_not_mem_of_blank hb), words_blank_append hb,
        words_solid_append hSolid hw hEnd, List.findSome?_cons]
      by_cases hMem : ')' ∈ w
      · obtain ⟨s, v, rfl, hClosed⟩ := List.eq_append_cons_of_mem hMem
        have hNext : ((v ++ r).head? == some ':') = (v.head? == some ':') := by
          cases v with
          | cons c cs => rfl
          | nil =>
              cases r with
              | nil => rfl
              | cons c cs =>
                  have hcBlank : isBlank c = true := hEnd
                  have hNe : c ≠ ':' := by
                    rintro rfl
                    exact absurd hcBlank (by decide)
                  simpa using hNe
        rw [List.append_assoc, List.cons_append, colonAfterClosing?_closed hClosed,
          colonAfterClosing?_closed hClosed, hNext]
      · have hNone := colonAfterClosing?_of_not_mem hMem []
        rw [List.append_nil] at hNone
        rw [colonAfterClosing?_of_not_mem hMem, hNone, ih]
        rfl

/-! ## What follows the type -/

/-- The share of the text after the type in what may still happen. -/
def unsettledAfter : Text → Nat
  | '(' :: r =>
    match colonAfterClosing? r with
    | none => 1
    | some true => 2
    | some false => 3
  | c :: _ => if c = ':' then 0 else 1
  | [] => 1

theorem unsettledAfter_cons {c : Char} (hParen : c ≠ '(') (t : Text) :
    unsettledAfter (c :: t) = if c = ':' then 0 else 1 := by
  rw [unsettledAfter]
  exact hParen

theorem unsettledAfter_eq {scope : Option Text} {rest : Text}
    (hClosed : ∀ s ∈ scope, ')' ∉ s) (hScope : scope = none → scope? rest = none) :
    unsettledAfter (bracketed scope ++ rest) =
      (if scope.isSome then 2 else 0) + (if rest.head? = some ':' then 0 else 1) := by
  cases scope with
  | some s =>
      have hNext := colonAfterClosing?_closed (hClosed s rfl) rest
      have hText : bracketed (some s) ++ rest = '(' :: (s ++ ')' :: rest) := by
        simp [bracketed]
      rw [hText, unsettledAfter, hNext]
      cases hColon : rest.head? == some ':' with
      | true => rw [if_pos (beq_iff_eq.1 hColon)]; rfl
      | false => rw [if_neg (beq_eq_false_iff_ne.1 hColon)]; rfl
  | none =>
      have hNone := hScope rfl
      rw [scope?_eq_none_iff] at hNone
      cases rest with
      | nil => rfl
      | cons c cs =>
          by_cases hParen : c = '('
          · subst hParen
            have hOpen := colonAfterClosing?_of_not_mem (hNone cs rfl) []
            rw [List.append_nil] at hOpen
            rw [bracketed, List.nil_append, unsettledAfter, hOpen]
            rfl
          · rw [bracketed, List.nil_append, unsettledAfter_cons hParen]
            simp

theorem Opening.Sealed.unsettled {o : Opening} (h : o.Sealed) :
    Header.unsettled o.toText = o.unsettled := by
  rw [Header.unsettled, h.opening?]

theorem unsettled_of_letters {T x : Text} (hNe : T ≠ []) (hLetters : ∀ c ∈ T, isLetter c = true)
    (hHead : ∀ c ∈ x.head?, isLetter c = false) :
    unsettled (T ++ x) = (if CommitType.miscased T then 1 else 0) + unsettledAfter x := by
  obtain ⟨hTake, hDrop⟩ := takeWhile_letters hLetters hHead
  cases hOpening : opening? (T ++ x) with
  | none =>
      obtain ⟨c, cs, rfl⟩ := List.exists_cons_of_ne_nil hNe
      rw [opening?_eq_none_iff] at hOpening
      have hc := hOpening c (by simp)
      rw [hLetters c (by simp)] at hc
      contradiction
  | some o =>
      obtain ⟨hSealed, hText⟩ := opening?_eq_some_iff.1 hOpening
      obtain ⟨hType, hAfter⟩ := hSealed.takeWhile
      rw [← hText, hTake] at hType
      rw [← hText, hDrop] at hAfter
      rw [hText, hSealed.unsettled, Opening.unsettled, hType, hAfter,
        unsettledAfter_eq hSealed.scope_closed hSealed.rest_scope, Nat.add_assoc]

/-! ## Words -/

theorem unsettledAfter_of_endsWord {r : Text} (hEnd : endsWord r = true) :
    unsettledAfter r = 1 := by
  cases r with
  | nil => rfl
  | cons c cs =>
      have hBlank : isBlank c = true := hEnd
      have hParen : c ≠ '(' := by
        rintro rfl
        exact absurd hBlank (by decide)
      have hColon : c ≠ ':' := by
        rintro rfl
        exact absurd hBlank (by decide)
      rw [unsettledAfter_cons hParen, if_neg hColon]

theorem words_append_isPrefix {v r r' : Text} (hSolid : Solid v) (hEnd : endsWord r = true)
    (hEnd' : endsWord r' = true) (hWords : words r' <+: words r) :
    words (v ++ r') <+: words (v ++ r) := by
  cases hv : v with
  | nil => exact hWords
  | cons c cs =>
      rw [← hv, words_solid_append hSolid (by simp [hv]) hEnd,
        words_solid_append hSolid (by simp [hv]) hEnd']
      exact List.cons_prefix_cons.2 ⟨rfl, hWords⟩

theorem unsettledAfter_le {v r r' : Text} (hSolid : Solid v) (hEnd : endsWord r = true)
    (hEnd' : endsWord r' = true) (hWords : words r' <+: words r) :
    unsettledAfter (v ++ r') ≤ unsettledAfter (v ++ r) := by
  cases v with
  | nil =>
      rw [List.nil_append, List.nil_append, unsettledAfter_of_endsWord hEnd,
        unsettledAfter_of_endsWord hEnd']
  | cons c v =>
      by_cases hParen : c = '('
      · subst hParen
        have hTail : Solid v := fun d hd => hSolid d (by simp [hd])
        obtain ⟨more, hMore⟩ := words_append_isPrefix hTail hEnd hEnd' hWords
        rw [List.cons_append, List.cons_append, unsettledAfter, unsettledAfter,
          colonAfterClosing?_eq (v ++ r), ← hMore, List.findSome?_append,
          ← colonAfterClosing?_eq]
        cases colonAfterClosing? (v ++ r') with
        | some b => rfl
        | none =>
            dsimp only [Option.none_or]
            split <;> omega
      · rw [List.cons_append, List.cons_append, unsettledAfter_cons hParen,
          unsettledAfter_cons hParen]

/-- **Fewer words settle**: a line that keeps a first part of the words of
another one is at most as unsettled. -/
theorem unsettled_le_of_words {line line' : Text}
    (hHead : ∃ c ∈ line.head?, isBlank c = false) (hHead' : ∃ c ∈ line'.head?, isBlank c = false)
    (hWords : words line' <+: words line) : unsettled line' ≤ unsettled line := by
  obtain ⟨w, r, rfl, hw, hSolid, hEnd, hSplit⟩ := exists_word_of_head? hHead
  obtain ⟨w', r', rfl, -, -, hEnd', hSplit'⟩ := exists_word_of_head? hHead'
  rw [hSplit, hSplit', List.cons_prefix_cons] at hWords
  obtain ⟨rfl, hRest⟩ := hWords
  -- the type is the letters at the head of the word that both lines share
  have hw' : w'.takeWhile isLetter ++ w'.dropWhile isLetter = w' :=
    List.takeWhile_append_dropWhile
  have hAfter : Solid (w'.dropWhile isLetter) := fun c hc =>
    hSolid c ((List.dropWhile_suffix _).subset hc)
  have hStop : ∀ {x : Text}, endsWord x = true →
      ∀ c ∈ (w'.dropWhile isLetter ++ x).head?, isLetter c = false := by
    intro x hx c hc
    cases hDrop : w'.dropWhile isLetter with
    | nil =>
        rw [hDrop, List.nil_append] at hc
        cases x with
        | nil => simp at hc
        | cons d ds =>
            have hdc : d = c := by simpa using hc
            rw [← hdc]
            exact isLetter_eq_false_of_isBlank hx
    | cons d ds =>
        have hdc : d = c := by simpa [hDrop] using hc
        have hHeadDrop := List.head?_dropWhile_not isLetter w'
        rw [hDrop] at hHeadDrop
        rw [← hdc]
        simpa using hHeadDrop
  by_cases hNone : w'.takeWhile isLetter = []
  · have hOpening : ∀ x, opening? (w' ++ x) = none := by
      intro x
      rw [opening?_eq_none_iff]
      obtain ⟨c, cs, rfl⟩ := List.exists_cons_of_ne_nil hw
      intro d hd
      have hcd : c = d := by simpa using hd
      rw [← hcd]
      cases hLetter : isLetter c with
      | false => rfl
      | true => simp [hLetter] at hNone
    rw [unsettled, hOpening, unsettled, hOpening]
  · have hLetters : ∀ c ∈ w'.takeWhile isLetter, isLetter c = true := fun c hc =>
      List.mem_takeWhile_imp hc
    rw [← hw', List.append_assoc, List.append_assoc,
      unsettled_of_letters hNone hLetters (hStop hEnd),
      unsettled_of_letters hNone hLetters (hStop hEnd')]
    exact Nat.add_le_add_left (unsettledAfter_le hAfter hEnd hEnd' hRest) _

end Header

/-! ## The fixes for the type and the colon -/

theorem Header.head?_ne_colon {rest : Text} (h : (separated rest).1 = false) :
    rest.head? ≠ some ':' := by
  intro hHead
  obtain ⟨c, cs, rfl⟩ : ∃ c cs, rest = c :: cs :=
    List.exists_cons_of_ne_nil (by rintro rfl; simp at hHead)
  have hColon : c = ':' := by simpa using hHead
  have hSeparated := separated_of_colon (b := []) rfl cs
  rw [List.nil_append] at hSeparated
  rw [hColon, hSeparated] at h
  simp at h

/-- Each of the two fixes settles the header by one. -/
theorem unsettled_separated_add_le (t : Text) :
    Header.unsettled (Message.reading t).separated +
        (if (Message.reading t).miscased?.isSome then 1 else 0) +
        (if (Message.reading t).lacksColon then 1 else 0) ≤
      Header.unsettled (firstLine (trim t)) := by
  cases hOpening : Header.opening? (firstLine (trim t)) with
  | none =>
      have hType : (Message.reading t).parts.type = none := by
        simp [Message.type_reading, hOpening]
      have hHeader : (Message.reading t).header = firstLine (trim t) := rfl
      rw [Message.separated_of_no_opening hOpening, hHeader]
      simp [Message.miscased?, Message.lacksColon, hType]
  | some o =>
      have hNew := Message.opens_separated hOpening
      have hLine := hNew.text_eq
      rw [unlines_singleton] at hLine
      have hParts : (Message.reading t).parts = Header.parse (firstLine (trim t)) := rfl
      rw [Header.parse_of_opening hOpening] at hParts
      have hType : (if CommitType.miscased ((Message.reading t).reopened o).type then 1 else 0) +
          (if (Message.reading t).miscased?.isSome then 1 else 0) =
          if CommitType.miscased o.type then 1 else 0 := by
        cases hCase : CommitType.miscased o.type with
        | false => simp [Message.miscased?, hParts, hCase, Message.reopened]
        | true =>
            have hFound : (Message.reading t).miscased? = some o.type := by
              simp [Message.miscased?, hParts, hCase]
            obtain ⟨-, -, k, hLower⟩ := Message.miscased?_eq_some_iff.1 hFound
            simp [hFound, Message.reopened, hLower, CommitType.miscased_name]
      have hColon : (if ((Message.reading t).reopened o).rest.head? = some ':' then 0 else 1) +
          (if (Message.reading t).lacksColon then 1 else 0) ≤
          if o.rest.head? = some ':' then 0 else 1 := by
        cases hLacks : (Message.reading t).lacksColon with
        | false => simp [Message.reopened, hLacks]
        | true =>
            have hSeparated : (Header.separated o.rest).1 = false := by
              simpa [Message.lacksColon, hParts] using hLacks
            simp [Message.reopened, hLacks, Header.head?_ne_colon hSeparated]
      have hScope : ((Message.reading t).reopened o).scope = o.scope := rfl
      rw [hLine, hNew.sealed.unsettled, Header.unsettled, hOpening]
      simp only [Header.Opening.unsettled, hScope]
      omega

/-! ## The first line under wrapping -/

/-- Trimming takes blank characters off the end of the first line at most, if the
text begins with ink. -/
theorem firstLine_trim_append {t : Text} (hHead : ∃ c ∈ (firstLine t).head?, isBlank c = false) :
    ∃ g, blank g = true ∧ firstLine t = firstLine (trim t) ++ g := by
  obtain ⟨c, hc, hInk⟩ := hHead
  have hcText : c ∈ t.head? := mem_head?_of_isPrefix (List.takeWhile_prefix _) hc
  have hTrim : trim t = trimEnd t := by
    rw [trim, trimStart_of_head (head?_of_exists ⟨c, hcText, hInk⟩)]
  obtain ⟨b, hBlank, hEnd⟩ := exists_trimEnd t
  rw [hTrim]
  by_cases hFeed : '\n' ∈ trimEnd t
  · refine ⟨[], rfl, ?_⟩
    obtain ⟨l, rest, hl, hNone⟩ := List.eq_append_cons_of_mem hFeed
    conv => lhs; rw [hEnd]
    rw [hl, List.append_assoc, firstLine_append hNone, firstLine_append hNone]
    simp [firstLine]
  · refine ⟨firstLine b, ?_, ?_⟩
    · simp only [blank, List.all_eq_true]
      intro x hx
      exact blank_of_mem hBlank ((List.takeWhile_prefix _).subset hx)
    · have hLine := firstLine_append hFeed []
      rw [List.append_nil] at hLine
      conv => lhs; rw [hEnd]
      rw [firstLine_append hFeed, hLine]
      simp [firstLine]

/-- So the first line reads the same. -/
theorem parse_firstLine_trim {t : Text} (hHead : ∃ c ∈ (firstLine t).head?, isBlank c = false) :
    Header.parse (firstLine (trim t)) = Header.parse (firstLine t) := by
  obtain ⟨g, hGap, hFirst⟩ := firstLine_trim_append hHead
  rw [hFirst, Header.parse_append_blank _ hGap]

/-- The first line of the second text begins with a word, and its words are the
first ones of the first line of the first text. -/
def KeepsHead (t t' : Text) : Prop :=
  (∃ c ∈ (firstLine t').head?, isBlank c = false) ∧
    words (firstLine t') <+: words (firstLine t)

namespace KeepsHead

variable {t t' t'' : Text}

theorem refl (hHead : ∃ c ∈ (firstLine t).head?, isBlank c = false) : KeepsHead t t :=
  ⟨hHead, List.prefix_refl _⟩

theorem trans (h : KeepsHead t t') (h' : KeepsHead t' t'') : KeepsHead t t'' :=
  ⟨h'.1, h'.2.trans h.2⟩

theorem of_firstLine_eq (h : KeepsHead t t') (hSame : firstLine t'' = firstLine t') :
    KeepsHead t t'' := by
  unfold KeepsHead
  rw [hSame]
  exact h

theorem unsettled_le (h : KeepsHead t t')
    (hHead : ∃ c ∈ (firstLine t).head?, isBlank c = false) :
    Header.unsettled (firstLine t') ≤ Header.unsettled (firstLine t) :=
  Header.unsettled_le_of_words hHead h.1 h.2

/-- The first line is wrapped only at index zero. -/
theorem wrapLineAt (hHead : ∃ c ∈ (firstLine t).head?, isBlank c = false) (k : Nat) :
    KeepsHead t (Fix.wrapLineAt k t) := by
  cases k with
  | succ k => exact (refl hHead).of_firstLine_eq (firstLine_wrapLineAt_succ k t)
  | zero =>
      obtain ⟨c, hc, hInk⟩ := hHead
      have hLine : blank (firstLine t) = false :=
        not_blank_of_mem (List.mem_of_mem_head? hc) hInk
      have hWrap := Wrap.firstLine_wrap Fix.wrapWidth hLine
      rw [← firstLine_wrapLineAt_zero] at hWrap
      exact hWrap

theorem wrapAll (hHead : ∃ c ∈ (firstLine t).head?, isBlank c = false) (ks : List Nat) :
    KeepsHead t (CommitLint.wrapAll t ks) := by
  induction ks generalizing t with
  | nil => exact refl hHead
  | cons k ks ih =>
      have hOne := wrapLineAt hHead k
      rw [wrapAll_cons]
      exact hOne.trans (ih hOne.1)

theorem trim (hHead : ∃ c ∈ (firstLine t).head?, isBlank c = false) :
    KeepsHead t (Text.trim t) := by
  obtain ⟨g, hGap, hFirst⟩ := firstLine_trim_append hHead
  obtain ⟨c, hc, hInk⟩ := hHead
  have hcText : c ∈ t.head? := mem_head?_of_isPrefix (List.takeWhile_prefix _) hc
  refine ⟨⟨c, head?_firstLine_trim hcText hInk, hInk⟩, ?_⟩
  have hWords : words (firstLine t) = words (firstLine (Text.trim t)) := by
    rw [hFirst, words_append_of_blank _ hGap]
  exact hWords ▸ List.prefix_refl _

end KeepsHead

end CommitLint
