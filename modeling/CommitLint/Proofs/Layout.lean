import CommitLint.Proofs.Wrapping

/-!
# Greedy layouts

`fill` works with the text of the line that it has begun.  Here its result is
described by words alone: it prints a layout in which no line has room for the
word after it (`exists_layout_fill`).  What later files need about wrapping
follows from that description and not from the recursion:

* the first line takes as many words as fit on a line (`Layout.isPrefix_of_fits`);
* a line that wrapping leaves alone although it is too long is one word
  (`solid_of_wrap_eq_self`);
* a line of a wrapped text is laid out already, so wrapping it again gives that
  line alone (`lines_wrap_of_mem`);
* a text without blank characters at its ends has none there after wrapping
  (`trim_wrapAll`).
-/

namespace CommitLint.Wrap

open Text

variable {width : Int}

/-! ## Words on one line -/

@[simp] theorem joined_singleton (w : Text) : joined [w] = w := by
  simp [joined, List.intercalate]

theorem joined_cons (w : Text) (ws : List Text) : joined (w :: ws) = w ++ spaced ws := by
  induction ws generalizing w with
  | nil => simp
  | cons v vs ih =>
      have hStep : joined (w :: v :: vs) = w ++ ' ' :: joined (v :: vs) := by
        simp [joined, List.intercalate, List.intersperse]
      rw [hStep, ih, spaced_cons]
      simp

theorem joined_append {vs : List Text} (hNe : vs ≠ []) (ws : List Text) :
    joined (vs ++ ws) = joined vs ++ spaced ws := by
  obtain ⟨v, vs, rfl⟩ := List.exists_cons_of_ne_nil hNe
  rw [List.cons_append, joined_cons, joined_cons, List.append_assoc]
  simp [spaced]

/-- More words make a longer line. -/
theorem joined_isPrefix {vs us : List Text} (h : vs <+: us) : joined vs <+: joined us := by
  by_cases hNe : vs = []
  · rw [hNe]
    exact List.nil_prefix
  · obtain ⟨ws, rfl⟩ := h
    rw [joined_append hNe]
    exact List.prefix_append _ _

/-- The words of a line are the words that were put on it. -/
theorem words_joined {ws : List Text} (hWords : ∀ w ∈ ws, w ≠ [] ∧ Solid w) :
    words (joined ws) = ws := by
  induction ws with
  | nil => rfl
  | cons w ws ih =>
      obtain ⟨hNe, hSolid⟩ := hWords w (by simp)
      cases ws with
      | nil => rw [joined_singleton, words_of_solid hSolid hNe]
      | cons v vs =>
          have hTail : words (joined (v :: vs)) = v :: vs :=
            ih fun u hu => hWords u (by simp [hu])
          have hLine : joined (w :: v :: vs) = w ++ ' ' :: joined (v :: vs) := by
            rw [joined_cons, joined_cons, spaced_cons]
            simp
          rw [hLine, words_append_blank w (by decide), words_of_solid hSolid hNe, hTail]
          rfl

/-! ## What filling prints -/

theorem fits_singleton (width : Int) (w : Text) : Fits width [w] := Or.inl rfl

/-- The line begun so far is some words, and the words to come are laid out
after them. -/
theorem exists_layout_fillFrom {vs : List Text} (hNe : vs ≠ []) (hFits : Fits width vs)
    (ws : List Text) :
    ∃ us ls, Layout width (vs ++ ws) (us :: ls) ∧ Tight width (us :: ls) ∧ vs <+: us ∧
      fillFrom width (joined vs) ws = (us :: ls).map joined := by
  induction ws generalizing vs with
  | nil =>
      refine ⟨vs, [], ?_, trivial, List.prefix_refl _, rfl⟩
      exact
        { flatten := by simp
          nonempty := by simpa using Ne.symm hNe
          fits := by simpa using hFits }
  | cons w ws ih =>
      have hLonger : joined vs ++ ' ' :: w = joined (vs ++ [w]) := by
        rw [joined_append hNe]
        simp
      rw [fillFrom, hLonger]
      by_cases hRoom : ((joined (vs ++ [w])).length : Int) ≤ width
      · obtain ⟨us, ls, hLayout, hTight, hBegun, hPrint⟩ := ih (by simp) (Or.inr hRoom)
        rw [List.append_assoc, List.singleton_append] at hLayout
        rw [if_pos hRoom]
        exact ⟨us, ls, hLayout, hTight, (List.prefix_append vs [w]).trans hBegun, hPrint⟩
      · obtain ⟨us, ls, hLayout, hTight, hBegun, hPrint⟩ := ih (by simp) (fits_singleton width w)
        rw [joined_singleton] at hPrint
        rw [if_neg hRoom, hPrint]
        refine ⟨vs, us :: ls, ?_, ⟨?_, hTight⟩, List.prefix_refl _, rfl⟩
        · have hFlatten := hLayout.flatten
          refine
            { flatten := by rw [List.flatten_cons, hFlatten, List.singleton_append]
              nonempty := ?_
              fits := ?_ }
          · intro hMem
            rcases List.mem_cons.1 hMem with hNil | hMem
            · exact hNe hNil.symm
            · exact hLayout.nonempty hMem
          · intro l hl
            rcases List.mem_cons.1 hl with rfl | hl
            · exact hFits
            · exact hLayout.fits l hl
        · intro x hx
          obtain ⟨rest, rfl⟩ := hBegun
          have hFirst : x = w := by simpa using hx.symm
          rw [hFirst]
          omega

/-- **Filling prints a tight layout** of the words. -/
theorem exists_layout_fill (width : Int) (ws : List Text) :
    ∃ ls, Layout width ws ls ∧ Tight width ls ∧ fill width ws = ls.map joined := by
  cases ws with
  | nil =>
      have hNone : Layout width [] [] :=
        { flatten := rfl
          nonempty := by simp
          fits := by simp }
      exact ⟨[], hNone, trivial, rfl⟩
  | cons w ws =>
      obtain ⟨us, ls, hLayout, hTight, -, hPrint⟩ :=
        exists_layout_fillFrom (by simp) (fits_singleton width w) ws
      rw [joined_singleton] at hPrint
      exact ⟨us :: ls, hLayout, hTight, hPrint⟩

/-! ## The first line -/

theorem Layout.head_isPrefix {ws us : List Text} {ls : List (List Text)}
    (h : Layout width ws (us :: ls)) : us <+: ws :=
  ⟨ls.flatten, by rw [← List.flatten_cons, h.flatten]⟩

theorem Layout.ne_nil_of_mem {ws l : List Text} {ls : List (List Text)}
    (h : Layout width ws ls) (hl : l ∈ ls) : l ≠ [] := by
  rintro rfl
  exact h.nonempty hl

/-- The first line of a tight layout takes all the words that fit on a line
together. -/
theorem Layout.isPrefix_of_fits {ws us vs : List Text} {ls : List (List Text)}
    (h : Layout width ws (us :: ls)) (hTight : Tight width (us :: ls)) (hInitial : vs <+: ws)
    (hFits : Fits width vs) : vs <+: us := by
  have hFirst := h.head_isPrefix
  by_cases hShort : vs.length ≤ us.length
  · exact List.prefix_of_prefix_length_le hInitial hFirst hShort
  · -- otherwise the line would have had room for the first word of the next one
    exfalso
    cases ls with
    | nil =>
        have hAll : us = ws := by simpa using h.flatten
        have hLength := hInitial.length_le
        rw [← hAll] at hLength
        exact hShort hLength
    | cons m ms =>
        have hNe : us ≠ [] := h.ne_nil_of_mem (by simp)
        have hMore : m ≠ [] := h.ne_nil_of_mem (by simp)
        obtain ⟨w, rest, rfl⟩ := List.exists_cons_of_ne_nil hMore
        have hNext : us ++ [w] <+: ws := ⟨rest ++ ms.flatten, by rw [← h.flatten]; simp⟩
        have hBeyond : us ++ [w] <+: vs := by
          apply List.prefix_of_prefix_length_le hNext hInitial
          simp only [List.length_append, List.length_singleton]
          omega
        have hExceeds := hTight.1 w (by simp)
        have hLine := (joined_isPrefix hBeyond).length_le
        have hOne : 0 < us.length := List.length_pos_iff.2 hNe
        rcases hFits with hWord | hRoom
        · omega
        · omega

/-- The first line of a wrapped text is the longest that initial words of the
text make up. -/
theorem exists_firstLine_wrap (width : Int) {t : Text} (hInk : blank t = false) :
    ∃ us, firstLine (wrap width t) = joined us ∧ us <+: words t ∧ Fits width us ∧
      ∀ vs, vs <+: words t → Fits width vs → vs <+: us := by
  cases hWords : words t with
  | nil =>
      rw [words_eq_nil_iff, hInk] at hWords
      contradiction
  | cons w ws =>
      obtain ⟨us, ls, hLayout, hTight, -, hPrint⟩ :=
        exists_layout_fillFrom (by simp) (fits_singleton width w) ws
      rw [joined_singleton] at hPrint
      have hFirst : firstLine (wrap width t) = joined us := by
        apply firstLine_of_lines
        rw [lines_wrap hWords, hPrint, List.map_cons]
      have hInitial : us <+: w :: ws := hLayout.head_isPrefix
      refine ⟨us, hFirst, hInitial, hLayout.fits us (by simp), ?_⟩
      intro vs hvs hFits
      exact hLayout.isPrefix_of_fits hTight hvs hFits

/-- Words of a text are words when they stand alone. -/
theorem forall_word_of_isPrefix {t : Text} {us : List Text} (h : us <+: words t) :
    ∀ w ∈ us, w ≠ [] ∧ Solid w := by
  intro w hw
  have hMem := h.subset hw
  exact ⟨word_ne_nil hMem, solid_of_mem_words hMem⟩

/-- The first line after wrapping begins with the first word, and its words are
the first ones. -/
theorem firstLine_wrap (width : Int) {t : Text} (hInk : blank t = false) :
    (∃ c ∈ (firstLine (wrap width t)).head?, isBlank c = false) ∧
      words (firstLine (wrap width t)) <+: words t := by
  obtain ⟨us, hFirst, hInitial, -, hMost⟩ := exists_firstLine_wrap width hInk
  have hEach := forall_word_of_isPrefix hInitial
  rw [hFirst, words_joined hEach]
  refine ⟨?_, hInitial⟩
  cases hWords : words t with
  | nil =>
      rw [words_eq_nil_iff, hInk] at hWords
      contradiction
  | cons w ws =>
      have hWord : [w] <+: us := hMost [w] (by simp [hWords]) (fits_singleton width w)
      obtain ⟨rest, rfl⟩ := hWord
      obtain ⟨hNe, hSolid⟩ := hEach w (by simp)
      obtain ⟨c, cs, rfl⟩ := List.exists_cons_of_ne_nil hNe
      exact ⟨c, by simp [joined_cons], hSolid c (by simp)⟩

/-! ## Lines that are laid out already -/

/-- A line that wrapping leaves alone although it exceeds the width is one
word. -/
theorem solid_of_wrap_eq_self {l : Text} (hFeed : '\n' ∉ l) (hWrap : wrap width l = l)
    (hLong : width < (l.length : Int)) (hNe : l ≠ []) : Solid l := by
  have hInk : blank l = false := by
    by_contra hBlank
    have hNone := words_of_blank (by simpa using hBlank)
    rw [wrap, wrappedLines, hNone] at hWrap
    exact hNe hWrap.symm
  obtain ⟨us, hFirst, hInitial, hFits, -⟩ := exists_firstLine_wrap width hInk
  have hLine : l = joined us := by
    rw [← hFirst, hWrap]
    exact (firstLine_of_lines (pieces_eq_singleton hFeed)).symm
  rcases hFits with hOne | hRoom
  · obtain ⟨w, rfl⟩ := List.length_eq_one_iff.1 hOne
    rw [hLine, joined_singleton]
    exact (forall_word_of_isPrefix hInitial w (by simp)).2
  · rw [← hLine] at hRoom
    omega

theorem fillFrom_of_fits {line : Text} {ws : List Text}
    (hRoom : ws = [] ∨ ((line ++ spaced ws).length : Int) ≤ width) :
    fillFrom width line ws = [line ++ spaced ws] := by
  induction ws generalizing line with
  | nil => simp [fillFrom]
  | cons w ws ih =>
      have hAssoc : line ++ spaced (w :: ws) = line ++ ' ' :: w ++ spaced ws := by
        rw [spaced_cons, List.append_assoc]
      have hAll : ((line ++ ' ' :: w ++ spaced ws).length : Int) ≤ width := by
        rw [← hAssoc]
        exact hRoom.resolve_left (by simp)
      have hOne : ((line ++ ' ' :: w).length : Int) ≤ width := by
        rw [List.length_append] at hAll
        omega
      rw [fillFrom, if_pos hOne, hAssoc]
      exact ih (Or.inr hAll)

/-- Words that fit on a line are put on one line. -/
theorem fill_of_fits {ws : List Text} (hNe : ws ≠ []) (hFits : Fits width ws) :
    fill width ws = [joined ws] := by
  obtain ⟨w, ws, rfl⟩ := List.exists_cons_of_ne_nil hNe
  rw [fill, joined_cons]
  apply fillFrom_of_fits
  rcases hFits with hOne | hRoom
  · left
    simpa using hOne
  · right
    rwa [joined_cons] at hRoom

theorem Layout.mem_of_mem {ws l : List Text} {ls : List (List Text)} {w : Text}
    (h : Layout width ws ls) (hl : l ∈ ls) (hw : w ∈ l) : w ∈ ws := by
  rw [← h.flatten]
  exact List.mem_flatten_of_mem hl hw

/-- A line on which words of a text are laid out has these words. -/
theorem Layout.words_joined {t : Text} {us : List Text} {ls : List (List Text)}
    (h : Layout width (words t) ls) (hus : us ∈ ls) : words (joined us) = us := by
  apply Wrap.words_joined
  intro w hw
  have hMem := h.mem_of_mem hus hw
  exact ⟨word_ne_nil hMem, solid_of_mem_words hMem⟩

/-- **Wrapping a wrapped line**: every line that wrapping gives is laid out, and
wrapping it gives it back. -/
theorem lines_wrap_of_mem {l x : Text} (hx : x ∈ lines (wrap width l)) :
    lines (wrap width x) = [x] := by
  cases hWords : words l with
  | nil =>
      have hEmpty : wrap width l = [] := by
        rw [wrap, wrappedLines, hWords]
        rfl
      have hNil : x = [] := by
        rw [hEmpty] at hx
        exact List.mem_singleton.1 hx
      rw [hNil]
      rfl
  | cons w ws =>
      obtain ⟨ls, hLayout, -, hPrint⟩ := exists_layout_fill width (words l)
      rw [lines_wrap hWords, ← fill, ← hWords, hPrint, List.mem_map] at hx
      obtain ⟨us, hus, rfl⟩ := hx
      have hNe := hLayout.ne_nil_of_mem hus
      have hRead := hLayout.words_joined hus
      obtain ⟨v, vs, rfl⟩ := List.exists_cons_of_ne_nil hNe
      rw [lines_wrap hRead]
      exact fill_of_fits hNe (hLayout.fits _ hus)

/-! ## The ends of a wrapped text -/

/-- The last line of a layout ends as the last word does. -/
theorem getLast?_fillFrom (width : Int) {line : Text} {ws : List Text}
    (hLine : ∃ c ∈ line.getLast?, isBlank c = false) (hWords : ∀ w ∈ ws, w ≠ [] ∧ Solid w) :
    ∃ l ∈ (fillFrom width line ws).getLast?, ∃ c ∈ l.getLast?, isBlank c = false := by
  induction ws generalizing line with
  | nil => exact ⟨line, rfl, hLine⟩
  | cons w ws ih =>
      have hRest : ∀ v ∈ ws, v ≠ [] ∧ Solid v := fun v hv => hWords v (by simp [hv])
      obtain ⟨hNe, hSolid⟩ := hWords w (by simp)
      obtain ⟨c, hc⟩ := Option.isSome_iff_exists.1 (List.getLast?_isSome.2 hNe)
      have hInk : isBlank c = false := hSolid c (List.mem_of_getLast? hc)
      rw [fillFrom]
      split
      · refine ih ⟨c, ?_, hInk⟩ hRest
        rw [List.getLast?_append, List.getLast?_cons, hc]
        rfl
      · obtain ⟨l, hl, hEnd⟩ := ih ⟨c, hc, hInk⟩ hRest
        refine ⟨l, ?_, hEnd⟩
        rw [List.getLast?_cons, Option.mem_def.1 hl]
        rfl

theorem tidy_lines_wrap (width : Int) {t : Text} (hInk : blank t = false) :
    Tidy (lines (wrap width t)) where
  noFeed := fun _ hl => newline_not_mem_of_mem_lines hl
  headInk := ⟨_, firstLine_eq _, (firstLine_wrap width hInk).1⟩
  lastInk := by
    have hEach : ∀ w ∈ words t, w ≠ [] ∧ Solid w := fun w hw =>
      ⟨word_ne_nil hw, solid_of_mem_words hw⟩
    cases hWords : words t with
    | nil =>
        rw [words_eq_nil_iff, hInk] at hWords
        contradiction
    | cons w ws =>
        rw [hWords] at hEach
        obtain ⟨hNe, hSolid⟩ := hEach w (by simp)
        obtain ⟨c, hc⟩ := Option.isSome_iff_exists.1 (List.getLast?_isSome.2 hNe)
        rw [lines_wrap hWords]
        exact getLast?_fillFrom width ⟨c, hc, hSolid c (List.mem_of_getLast? hc)⟩
          fun v hv => hEach v (by simp [hv])

end CommitLint.Wrap

namespace CommitLint

open Text

theorem tidy_wrapLineAt {t : Text} (h : Tidy (lines t)) (k : Nat) :
    Tidy (lines (Fix.wrapLineAt k t)) := by
  rcases wrapLineAt_cases k t with ⟨-, hSame⟩ | ⟨front, l, back, hLines, -, hNew⟩
  · rwa [hSame]
  · rw [hLines] at h
    have hPieces : (∃ c ∈ l, isBlank c = false) →
        Tidy (lines (Wrap.wrap Fix.wrapWidth l)) := by
      rintro ⟨c, hc, hInk⟩
      exact Wrap.tidy_lines_wrap Fix.wrapWidth (not_blank_of_mem hc hInk)
    have hNewLines : lines (Fix.wrapLineAt k t) =
        front ++ (lines (Wrap.wrap Fix.wrapWidth l) ++ back) := by
      rw [hNew]
      exact lines_unlines_splice (fun x hx => h.noFeed x (by simp [hx]))
        (fun x hx => h.noFeed x (by simp [hx]))
    refine
      { noFeed := fun x hx => newline_not_mem_of_mem_lines hx
        headInk := ?_
        lastInk := ?_ }
    · obtain ⟨x, hx, c, hc, hInk⟩ := h.headInk
      rw [hNewLines]
      cases front with
      | nil =>
          have hFirst : l = x := by simpa using hx
          subst hFirst
          obtain ⟨y, hy, hHead⟩ := (hPieces ⟨c, List.mem_of_mem_head? hc, hInk⟩).headInk
          refine ⟨y, ?_, hHead⟩
          rw [List.nil_append, List.head?_append, Option.mem_def.1 hy]
          rfl
      | cons f fs => exact ⟨x, by simpa using hx, c, hc, hInk⟩
    · obtain ⟨x, hx, c, hc, hInk⟩ := h.lastInk
      rw [hNewLines, List.getLast?_append, List.getLast?_append]
      cases hBack : back.getLast? with
      | none =>
          rw [List.getLast?_eq_none_iff] at hBack
          have hLast : l = x := by simpa [hBack] using hx
          subst hLast
          obtain ⟨y, hy, hEnd⟩ := (hPieces ⟨c, List.mem_of_getLast? hc, hInk⟩).lastInk
          exact ⟨y, by rw [Option.mem_def.1 hy]; rfl, hEnd⟩
      | some y =>
          refine ⟨x, ?_, c, hc, hInk⟩
          simpa [List.getLast?_append, List.getLast?_cons, hBack] using hx

theorem tidy_wrapAll {t : Text} (h : Tidy (lines t)) (ks : List Nat) :
    Tidy (lines (wrapAll t ks)) := by
  induction ks generalizing t with
  | nil => exact h
  | cons k ks ih => exact ih (tidy_wrapLineAt h k)

/-- **Wrapping leaves no blank characters at the ends** of a text that had none
there. -/
theorem trim_wrapAll {t : Text} (h : Tidy (lines t)) (ks : List Nat) :
    trim (wrapAll t ks) = wrapAll t ks := by
  have hTrim := (tidy_wrapAll h ks).trim_unlines
  rwa [unlines_lines] at hTrim

end CommitLint
