import CommitLint.Proofs.Layout

/-!
# The tight layout of words

Words have one tight layout and no other (`Layout.eq_of_tight`): the first line
takes every word that still fits on it, so two tight layouts begin with the same
line, and what is left are two tight layouts of the remaining words.

`Wraps` says what a wrapped text has to look like, in terms of its own lines and
words and without a layout.  A text that looks like this is read back as a tight
layout of its words.  Wrapping therefore gives the one text that meets the
conditions, and a text that is wrapped already stays as it is.

Main result: `wrap_eq_iff_wraps`.
-/

namespace CommitLint.Wrap

open Text

variable {width : Int}

/-! ## There is only one -/

namespace Layout

variable {ws us : List Text} {ls : List (List Text)}

/-- The lines after the first one lay out the words that are left. -/
theorem tail (h : Layout width ws (us :: ls)) : Layout width ls.flatten ls where
  flatten := rfl
  nonempty := fun hMem => h.nonempty (by simp [hMem])
  fits := fun l hl => h.fits l (by simp [hl])

/-- Without words there are no lines. -/
theorem eq_nil (h : Layout width [] ls) : ls = [] := by
  cases ls with
  | nil => rfl
  | cons us ls =>
      have hNil : us = [] := by simpa using h.head_isPrefix
      exact absurd hNil (h.ne_nil_of_mem (by simp))

end Layout

theorem Tight.tail {us : List Text} {ls : List (List Text)} (h : Tight width (us :: ls)) :
    Tight width ls := by
  cases ls with
  | nil => trivial
  | cons m ms => exact h.2

/-- **One tight layout**: no line could end earlier, because the line would have
room for one more word, or later, because the other layout would. -/
theorem Layout.eq_of_tight {ws : List Text} {ls ls' : List (List Text)}
    (h : Layout width ws ls) (hTight : Tight width ls)
    (h' : Layout width ws ls') (hTight' : Tight width ls') : ls = ls' := by
  induction ls generalizing ws ls' with
  | nil =>
      have hNone : ws = [] := h.flatten.symm
      subst hNone
      exact h'.eq_nil.symm
  | cons us ls ih =>
      cases ls' with
      | nil =>
          have hNone : ws = [] := h'.flatten.symm
          subst hNone
          exact h.eq_nil
      | cons vs ls' =>
          have hShort : us <+: vs :=
            h'.isPrefix_of_fits hTight' h.head_isPrefix (h.fits us (by simp))
          have hLong : vs <+: us :=
            h.isPrefix_of_fits hTight h'.head_isPrefix (h'.fits vs (by simp))
          have hFirst : us = vs := hShort.eq_of_length_le hLong.length_le
          subst hFirst
          have hRest : ls.flatten = ls'.flatten := by
            have hSame := h.flatten.trans h'.flatten.symm
            rwa [List.flatten_cons, List.flatten_cons, List.append_cancel_left_eq] at hSame
          have hTail := h'.tail
          rw [← hRest] at hTail
          rw [ih h.tail hTight.tail hTail hTight'.tail]

/-! ## It has the fewest lines -/

theorem length_joined_le_of_suffix {us vs : List Text} (h : us <:+ vs) :
    (joined us).length ≤ (joined vs).length := by
  obtain ⟨front, rfl⟩ := h
  by_cases hNone : front = []
  · rw [hNone, List.nil_append]
  · cases us with
    | nil => exact Nat.zero_le _
    | cons w ws =>
        rw [joined_append hNone, joined_cons, spaced_cons]
        simp only [List.length_append, List.length_cons]
        omega

/-- The last of the words that fit on a line fit on a line. -/
theorem Fits.of_suffix {us vs : List Text} (h : Fits width vs) (hEnd : us <:+ vs)
    (hNe : us ≠ []) : Fits width us := by
  have hLength := length_joined_le_of_suffix hEnd
  rcases h with hOne | hRoom
  · have hSome : 0 < us.length := List.length_pos_iff.2 hNe
    have hMost := hEnd.length_le
    left
    omega
  · right
    omega

/-- **One line more**: if the words to come are the last ones of another list of
words, they are so still after a line of the tight layout and any line of the
others. -/
theorem Layout.tail_isSuffix {ws us vs rest : List Text} {ls : List (List Text)}
    (h : Layout width ws (us :: ls)) (hTight : Tight width (us :: ls)) (hFits : Fits width vs)
    (hWords : ws <:+ vs ++ rest) : ls.flatten <:+ rest := by
  by_cases hLess : ws.length ≤ rest.length
  · have hRest : ws <:+ rest :=
      List.suffix_of_suffix_length_le hWords (List.suffix_append vs rest) hLess
    have hTail : ls.flatten <:+ ws := ⟨us, by rw [← List.flatten_cons, h.flatten]⟩
    exact hTail.trans hRest
  · -- the other line ends within the words to come, and what it has of them fits
    have hMore : rest <:+ ws :=
      List.suffix_of_suffix_length_le (List.suffix_append vs rest) hWords (by omega)
    obtain ⟨front, hFront⟩ := hMore
    have hNe : front ≠ [] := by
      rintro rfl
      rw [List.nil_append] at hFront
      rw [hFront] at hLess
      exact hLess (Nat.le_refl _)
    have hEnd : front <:+ vs := by
      obtain ⟨before, hBefore⟩ := hWords
      rw [← hFront, ← List.append_assoc, List.append_cancel_right_eq] at hBefore
      exact ⟨before, hBefore⟩
    have hFirst : front <+: us :=
      h.isPrefix_of_fits hTight ⟨rest, hFront⟩ (hFits.of_suffix hEnd hNe)
    obtain ⟨more, rfl⟩ := hFirst
    have hAll := h.flatten
    rw [← hFront, List.flatten_cons, List.append_assoc, List.append_cancel_left_eq] at hAll
    exact ⟨more, hAll⟩

/-- **The tight layout stays ahead**: after any number of lines the words that it has
left are the last ones of those that another division has left. -/
theorem Layout.drop_isSuffix {ws : List Text} {ls ls' : List (List Text)}
    (h : Layout width ws ls) (hTight : Tight width ls) (hFits : ∀ l ∈ ls', Fits width l)
    (hWords : ws <:+ ls'.flatten) (n : Nat) :
    (ls.drop n).flatten <:+ (ls'.drop n).flatten := by
  induction n generalizing ws ls ls' with
  | zero =>
      rw [List.drop_zero, List.drop_zero, h.flatten]
      exact hWords
  | succ n ih =>
      cases ls with
      | nil => exact List.nil_suffix
      | cons us ls =>
          cases ls' with
          | nil =>
              have hNone : ws = [] := List.suffix_nil.1 hWords
              subst hNone
              exact absurd h.eq_nil (by simp)
          | cons vs ls' =>
              rw [List.flatten_cons] at hWords
              have hStep := h.tail_isSuffix hTight (hFits vs (by simp)) hWords
              exact ih h.tail hTight.tail (fun l hl => hFits l (by simp [hl])) hStep

/-- So it has used up its words when the other division has. -/
theorem Layout.length_le {ws : List Text} {ls ls' : List (List Text)}
    (h : Layout width ws ls) (hTight : Tight width ls) (hFits : ∀ l ∈ ls', Fits width l)
    (hWords : ls'.flatten = ws) : ls.length ≤ ls'.length := by
  have hLeft := h.drop_isSuffix hTight hFits (hWords ▸ List.suffix_refl _) ls'.length
  rw [List.drop_length, List.flatten_nil, List.suffix_nil, List.flatten_eq_nil_iff] at hLeft
  by_contra hMore
  have hNe : ls.drop ls'.length ≠ [] := by
    rw [Ne, List.drop_eq_nil_iff]
    exact hMore
  obtain ⟨l, hl⟩ := List.exists_mem_of_ne_nil _ hNe
  exact h.ne_nil_of_mem (List.mem_of_mem_drop hl) (hLeft l hl)

/-! ## Lines and words of a text -/

/-- The lines of a text that has any; the empty text has none. -/
def rows (out : Text) : List Text := if out.isEmpty then [] else lines out

theorem unlines_rows (out : Text) : unlines (rows out) = out := by
  cases out with
  | nil => rfl
  | cons c cs => exact unlines_lines (c :: cs)

theorem rows_of_ne_nil {out : Text} (hNe : out ≠ []) : rows out = lines out := by
  cases out with
  | nil => contradiction
  | cons c cs => rfl

/-- The end of a line ends a word. -/
theorem words_unlines (ls : List Text) : words (unlines ls) = (ls.map words).flatten := by
  induction ls with
  | nil => rfl
  | cons l ls ih =>
      by_cases hEmpty : ls = []
      · simp [hEmpty]
      · rw [unlines_cons l hEmpty, words_append_blank l isBlank_newline, ih, List.map_cons,
          List.flatten_cons]

theorem flatten_map_words_rows (out : Text) : ((rows out).map words).flatten = words out := by
  rw [← words_unlines, unlines_rows]

/-! ## What a wrapped text looks like -/

/-- The text `out` is the text `t` wrapped to a width.  A line is words with single
spaces between them, it is within the width or has one word only, and the first
word of the next line would take it beyond the width. -/
structure Wraps (width : Int) (t out : Text) : Prop where
  words_eq : words out = words t
  inked : ∀ l ∈ rows out, words l ≠ []
  spaced : ∀ l ∈ rows out, joined (words l) = l
  fits : ∀ l ∈ rows out, (words l).length = 1 ∨ (l.length : Int) ≤ width
  tight : Tight width ((rows out).map words)

namespace Wraps

variable {t out : Text}

/-- The words of the lines are a layout. -/
theorem layout (h : Wraps width t out) : Layout width (words t) ((rows out).map words) where
  flatten := by rw [flatten_map_words_rows, h.words_eq]
  nonempty := by
    intro hMem
    obtain ⟨l, hl, hNil⟩ := List.mem_map.1 hMem
    exact h.inked l hl hNil
  fits := by
    intro us hus
    obtain ⟨l, hl, rfl⟩ := List.mem_map.1 hus
    rw [Fits, h.spaced l hl]
    exact h.fits l hl

/-- The text is what its layout prints. -/
theorem eq_unlines (h : Wraps width t out) :
    out = unlines (((rows out).map words).map joined) := by
  have hLines : ((rows out).map words).map joined = rows out := by
    rw [List.map_map]
    exact (List.map_congr_left h.spaced).trans (List.map_id _)
  rw [hLines, unlines_rows]

/-- A wrapped text is itself wrapped. -/
theorem self (h : Wraps width t out) : Wraps width out out :=
  { h with words_eq := rfl }

end Wraps

/-- The lines that wrapping gives are those of the layout that is filled. -/
theorem rows_wrap (width : Int) (t : Text) : rows (wrap width t) = wrappedLines width t := by
  cases hWords : words t with
  | nil =>
      rw [wrap, wrappedLines, hWords]
      rfl
  | cons w ws =>
      have hInk : blank (wrap width t) = false := by
        rw [blank_eq_of_ink_eq (ink_wrap t), ← Bool.not_eq_true, ← words_eq_nil_iff, hWords]
        simp
      have hNe : wrap width t ≠ [] := by
        intro hNil
        rw [hNil] at hInk
        contradiction
      rw [rows_of_ne_nil hNe, lines_wrap hWords, wrappedLines, hWords, fill]

/-- Wrapping gives a wrapped text. -/
theorem wraps_wrap (width : Int) (t : Text) : Wraps width t (wrap width t) := by
  obtain ⟨ls, hLayout, hTight, hPrint⟩ := exists_layout_fill width (words t)
  have hRows : rows (wrap width t) = ls.map joined := by rw [rows_wrap, wrappedLines, hPrint]
  have hWords : ∀ us ∈ ls, words (joined us) = us := fun us hus => hLayout.words_joined hus
  have hRead : (rows (wrap width t)).map words = ls := by
    rw [hRows, List.map_map]
    exact (List.map_congr_left hWords).trans (List.map_id ls)
  have hEach : ∀ l ∈ rows (wrap width t), ∃ us ∈ ls, joined us = l ∧ words l = us := by
    intro l hl
    rw [hRows, List.mem_map] at hl
    obtain ⟨us, hus, rfl⟩ := hl
    exact ⟨us, hus, rfl, hWords us hus⟩
  refine
    { words_eq := ?_
      inked := ?_
      spaced := ?_
      fits := ?_
      tight := by rw [hRead]; exact hTight }
  · rw [← flatten_map_words_rows, hRead]
    exact hLayout.flatten
  · intro l hl hNil
    obtain ⟨us, hus, -, rfl⟩ := hEach l hl
    exact hLayout.ne_nil_of_mem hus hNil
  · intro l hl
    obtain ⟨us, -, hJoined, rfl⟩ := hEach l hl
    exact hJoined
  · intro l hl
    obtain ⟨us, hus, rfl, hRow⟩ := hEach l hl
    rw [hRow]
    exact hLayout.fits us hus

/-- A line of a wrapped text that exceeds the width is one word. -/
theorem words_of_long_line {t l : Text} (hl : l ∈ lines (wrap width t)) (hNe : l ≠ [])
    (hLong : width < (l.length : Int)) : words l = [l] := by
  have hRow : l ∈ rows (wrap width t) := by
    rw [rows_of_ne_nil]
    · exact hl
    · intro hNil
      rw [hNil] at hl
      exact hNe (List.mem_singleton.1 hl)
  have hWraps := wraps_wrap width t
  rcases hWraps.fits l hRow with hOne | hRoom
  · obtain ⟨w, hWord⟩ := List.length_eq_one_iff.1 hOne
    have hSame := hWraps.spaced l hRow
    rw [hWord, joined_singleton] at hSame
    rw [hWord, hSame]
  · omega

/-- Only one text is a text wrapped. -/
theorem Wraps.eq_wrap {t out : Text} (h : Wraps width t out) : wrap width t = out := by
  obtain ⟨ls, hLayout, hTight, hPrint⟩ := exists_layout_fill width (words t)
  have hOne := hLayout.eq_of_tight hTight h.layout h.tight
  rw [wrap, wrappedLines, hPrint, hOne]
  exact h.eq_unlines.symm

/--
**Wrapping is specified by its result**: the wrapped text is the one text that has
the words of the given one, on lines that fit, with a break only where the next
word has no room.  So a wrapped text stays as it is when it is wrapped again, and
so does each of its lines.
-/
theorem wrap_eq_iff_wraps (width : Int) (t : Text) :
    (∀ out, wrap width t = out ↔ Wraps width t out) ∧
      wrap width (wrap width t) = wrap width t ∧
      (lines (wrap width t)).map (wrap width) = lines (wrap width t) := by
  refine ⟨?_, (wraps_wrap width t).self.eq_wrap, ?_⟩
  · intro out
    constructor
    · rintro rfl
      exact wraps_wrap width t
    · exact Wraps.eq_wrap
  · have hSame : ∀ l ∈ lines (wrap width t), wrap width l = l := by
      intro l hl
      rw [← unlines_lines (wrap width l), lines_wrap_of_mem hl, unlines_singleton]
    exact (List.map_congr_left hSame).trans (List.map_id _)

/--
**Wrapping takes the fewest lines**: the lines of a wrapped text divide its words
into lines that fit, and no division of the words, in order, into lines that are one
word each or within the width has fewer lines.
-/
theorem length_rows_wrap_le (width : Int) (t : Text) :
    Layout width (words t) ((rows (wrap width t)).map words) ∧
      ∀ ls : List (List Text), ls.flatten = words t →
        (∀ l ∈ ls, l.length = 1 ∨ ((joined l).length : Int) ≤ width) →
        (rows (wrap width t)).length ≤ ls.length := by
  have hWraps := wraps_wrap width t
  refine ⟨hWraps.layout, ?_⟩
  intro ls hWords hFits
  have hLeast := hWraps.layout.length_le hWraps.tight hFits hWords
  rwa [List.length_map] at hLeast

/-- A more even division has as many lines, one of them too long for the width. -/
theorem length_rows_wrap_le_even :
    let t : Text := "aaa bb cc endless".toList
    let even : List (List Text) := [["aaa".toList], ["bb".toList, "cc".toList], ["endless".toList]]
    wrap 6 t = "aaa bb\ncc\nendless".toList ∧ even.flatten = words t ∧
      (rows (wrap 6 t)).length ≤ even.length := by
  intro t even
  have hWords : even.flatten = words t := by decide
  exact ⟨by decide, hWords, (length_rows_wrap_le 6 t).2 even hWords (by decide)⟩

/-- A word that is too long has a line of its own, and at a width of zero every word
has. -/
example :
    wrap 5 "aa  bb\tlonger c d".toList = "aa bb\nlonger\nc d".toList ∧
      wrap 0 "a b".toList = "a\nb".toList := by
  decide +kernel

end CommitLint.Wrap
