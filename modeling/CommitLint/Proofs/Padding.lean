import CommitLint.Proofs.Caseless
import CommitLint.Proofs.Pass

/-!
# Blank characters around a message

A message is read from the trimmed text, but a fix edits the text that it is
given.  This file says what the fixes make of blank characters around a message.

At the end of a text they are carried along (`CarriesTail`): they stay at the end
and do not change what a fix does to the text before them.  In front they are
carried along only by fixes that look for nothing at the head of the text, and
only on the first line (`CarriesIndent`).  Line feeds in front push the message
down: what works on the first line no longer meets the header, and lines are
wrapped at indices that belong further up.  `countedFrom` moves the indices
instead (`trim_wrapAll_margin`).

Main results: `carriesTail_wrapAll`, `carriesIndent_wrapAll`,
`trim_wrapAll_margin`.
-/

namespace CommitLint

open Text

/-! ## Texts with a line feed -/

namespace Text

theorem lines_of_not_mem {t : Text} (hNone : '\n' ∉ t) : lines t = [t] :=
  pieces_eq_singleton hNone

theorem lines_append_feed {l : Text} (hNone : '\n' ∉ l) (t : Text) :
    lines (l ++ '\n' :: t) = l :: lines t := pieces_append hNone t

theorem unlines_cons_lines (l t : Text) : unlines (l :: lines t) = l ++ '\n' :: t := by
  rw [unlines_cons l (lines_ne_nil t), unlines_lines]

theorem mapFirstLine_of_not_mem (f : Text → Text) {t : Text} (hNone : '\n' ∉ t) :
    mapFirstLine f t = f t := by
  rw [mapFirstLine, lines_of_not_mem hNone]
  exact unlines_singleton (f t)

theorem mapFirstLine_append_feed (f : Text → Text) {l : Text} (hNone : '\n' ∉ l) (t : Text) :
    mapFirstLine f (l ++ '\n' :: t) = f l ++ '\n' :: t := by
  rw [mapFirstLine, lines_append_feed hNone]
  exact unlines_cons_lines (f l) t

theorem firstLine_append_feed {l : Text} (hNone : '\n' ∉ l) (t : Text) :
    firstLine (l ++ '\n' :: t) = l := firstLine_of_lines (lines_append_feed hNone t)

/-- A text is its first line and the rest of it. -/
theorem exists_firstLine_append (t : Text) :
    ∃ r, t = firstLine t ++ r ∧ (∀ c ∈ r.head?, c = '\n') ∧
      ∀ f : Text → Text, mapFirstLine f t = f (firstLine t) ++ r := by
  by_cases hFeed : '\n' ∈ t
  · obtain ⟨l, r, rfl, hNone⟩ := List.eq_append_cons_of_mem hFeed
    refine ⟨'\n' :: r, ?_, by simp, fun f => ?_⟩
    · rw [firstLine_append_feed hNone]
    · rw [mapFirstLine_append_feed f hNone, firstLine_append_feed hNone]
  · have hWhole : firstLine t = t := firstLine_of_lines (lines_of_not_mem hFeed)
    refine ⟨[], by simp [hWhole], by simp, fun f => ?_⟩
    rw [mapFirstLine_of_not_mem f hFeed, hWhole, List.append_nil]

theorem mapFirstLine_eq_self {f : Text → Text} {t : Text} (hSame : f (firstLine t) = firstLine t) :
    mapFirstLine f t = t := by
  obtain ⟨r, hSplit, -, hMap⟩ := exists_firstLine_append t
  rw [hMap, hSame, ← hSplit]

/-- A blank part of a text begins with a blank line. -/
theorem blank_firstLine {b : Text} (hBlank : blank b = true) : blank (firstLine b) = true := by
  simp only [blank, List.all_eq_true]
  intro c hc
  exact blank_of_mem hBlank ((List.takeWhile_prefix _).subset hc)

theorem blank_firstLine_append (t : Text) {b : Text} (hBlank : blank b = true) :
    blank (firstLine (t ++ b)) = blank (firstLine t) := by
  by_cases hFeed : '\n' ∈ t
  · obtain ⟨l, r, rfl, hNone⟩ := List.eq_append_cons_of_mem hFeed
    rw [List.append_assoc, List.cons_append, firstLine_append_feed hNone,
      firstLine_append_feed hNone]
  · have hWhole : firstLine t = t := firstLine_of_lines (lines_of_not_mem hFeed)
    rw [firstLine_append hFeed, blank_append, blank_firstLine hBlank, Bool.and_true, hWhole]

/-! ## Edits that carry blank characters along -/

/-- Blank characters after a text are still there after the edit, and the edit
does to the text what it would do without them. -/
def CarriesTail (f : Text → Text) : Prop :=
  ∀ t b, blank b = true → ∃ b', blank b' = true ∧ f (t ++ b) = f t ++ b'

/-- The same for blank characters in front, as long as they are on the first
line. -/
def CarriesIndent (f : Text → Text) : Prop :=
  ∀ a t, blank a = true → '\n' ∉ a → ∃ a', blank a' = true ∧ '\n' ∉ a' ∧ f (a ++ t) = a' ++ f t

namespace CarriesTail

variable {f g : Text → Text}

theorem id : CarriesTail fun t => t := fun _ b hBlank => ⟨b, hBlank, rfl⟩

theorem comp (hf : CarriesTail f) (hg : CarriesTail g) : CarriesTail fun t => f (g t) := by
  intro t b hBlank
  obtain ⟨b', hBlank', hg'⟩ := hg t b hBlank
  obtain ⟨b'', hBlank'', hf'⟩ := hf (g t) b' hBlank'
  refine ⟨b'', hBlank'', ?_⟩
  show f (g (t ++ b)) = f (g t) ++ b''
  rw [hg', hf']

theorem ite (hf : CarriesTail f) (p : Bool) : CarriesTail fun t => if p then f t else t := by
  cases p with
  | true => exact hf
  | false => exact id

/-- What is done to a line may be done to the first line. -/
theorem mapFirstLine (hf : CarriesTail f) : CarriesTail (Text.mapFirstLine f) := by
  intro t b hBlank
  by_cases hFeed : '\n' ∈ t
  · obtain ⟨l, r, rfl, hNone⟩ := List.eq_append_cons_of_mem hFeed
    refine ⟨b, hBlank, ?_⟩
    rw [List.append_assoc, List.cons_append, mapFirstLine_append_feed f hNone,
      mapFirstLine_append_feed f hNone]
    simp
  · rw [mapFirstLine_of_not_mem f hFeed]
    by_cases hLower : '\n' ∈ b
    · obtain ⟨g, r, rfl, hNone⟩ := List.eq_append_cons_of_mem hLower
      have hLine : '\n' ∉ t ++ g := by simp [hFeed, hNone]
      rw [blank_append, Bool.and_eq_true] at hBlank
      obtain ⟨g', hGap, hLonger⟩ := hf t g hBlank.1
      refine ⟨g' ++ '\n' :: r, by simp [hGap, hBlank.2], ?_⟩
      rw [← List.append_assoc, mapFirstLine_append_feed f hLine, hLonger]
      simp
    · have hLine : '\n' ∉ t ++ b := by simp [hFeed, hLower]
      rw [mapFirstLine_of_not_mem f hLine]
      exact hf t b hBlank

end CarriesTail

namespace CarriesIndent

variable {f g : Text → Text}

theorem id : CarriesIndent fun t => t := fun a _ hBlank hNone => ⟨a, hBlank, hNone, rfl⟩

theorem comp (hf : CarriesIndent f) (hg : CarriesIndent g) : CarriesIndent fun t => f (g t) := by
  intro a t hBlank hNone
  obtain ⟨a', hBlank', hNone', hg'⟩ := hg a t hBlank hNone
  obtain ⟨a'', hBlank'', hNone'', hf'⟩ := hf a' (g t) hBlank' hNone'
  refine ⟨a'', hBlank'', hNone'', ?_⟩
  show f (g (a ++ t)) = a'' ++ f (g t)
  rw [hg', hf']

theorem ite (hf : CarriesIndent f) (p : Bool) : CarriesIndent fun t => if p then f t else t := by
  cases p with
  | true => exact hf
  | false => exact id

theorem mapFirstLine (hf : CarriesIndent f) : CarriesIndent (Text.mapFirstLine f) := by
  intro a t hBlank hNone
  by_cases hFeed : '\n' ∈ t
  · obtain ⟨l, r, rfl, hLine⟩ := List.eq_append_cons_of_mem hFeed
    obtain ⟨a', hBlank', hNone', hLonger⟩ := hf a l hBlank hNone
    have hFirst : '\n' ∉ a ++ l := by simp [hNone, hLine]
    refine ⟨a', hBlank', hNone', ?_⟩
    rw [← List.append_assoc, mapFirstLine_append_feed f hFirst, mapFirstLine_append_feed f hLine,
      hLonger, List.append_assoc]
  · have hLine : '\n' ∉ a ++ t := by simp [hNone, hFeed]
    rw [mapFirstLine_of_not_mem f hFeed, mapFirstLine_of_not_mem f hLine]
    exact hf a t hBlank hNone

end CarriesIndent

end Text

/-! ## Fixes that work on the header -/

theorem carriesTail_addColon : CarriesTail (mapFirstLine Fix.addColon) := by
  apply CarriesTail.mapFirstLine
  intro l b hBlank
  have hLonger := Header.opening?_append_blank l hBlank
  unfold Fix.addColon
  rw [hLonger]
  cases Header.opening? l with
  | none => exact ⟨b, hBlank, rfl⟩
  | some o => exact ⟨[], rfl, by simp [trim_append_blank _ hBlank]⟩

theorem carriesTail_chopPeriod : CarriesTail (mapFirstLine Fix.chopPeriod) := by
  apply CarriesTail.mapFirstLine
  intro l b hBlank
  simp only [Fix.chopPeriod, trimEnd_append_of_blank l hBlank]
  by_cases hLast : (trimEnd l).getLast? = some '.'
  · rw [if_pos hLast, if_pos hLast]
    exact ⟨[], rfl, (List.append_nil _).symm⟩
  · rw [if_neg hLast, if_neg hLast]
    exact ⟨b, hBlank, rfl⟩

theorem chopPeriod_of_blank {l : Text} (hBlank : blank l = true) : Fix.chopPeriod l = l := by
  simp [Fix.chopPeriod, trimEnd_of_blank hBlank]

theorem carriesIndent_chopPeriod : CarriesIndent (mapFirstLine Fix.chopPeriod) := by
  apply CarriesIndent.mapFirstLine
  intro a l hBlank hNone
  refine ⟨a, hBlank, hNone, ?_⟩
  cases hInk : blank l with
  | true =>
      have hAll : blank (a ++ l) = true := by simp [hBlank, hInk]
      rw [chopPeriod_of_blank hInk, chopPeriod_of_blank hAll]
  | false =>
      have hNe : trimEnd l ≠ [] := by
        intro hNil
        rw [← blank_trimEnd, hNil] at hInk
        contradiction
      have hLast : (a ++ trimEnd l).getLast? = (trimEnd l).getLast? := by
        obtain ⟨c, hc⟩ := Option.isSome_iff_exists.1 (List.getLast?_isSome.2 hNe)
        rw [List.getLast?_append, hc]
        rfl
      simp only [Fix.chopPeriod, trimEnd_append a hInk, hLast]
      split
      · exact List.dropLast_append_of_ne_nil hNe
      · rfl

/-- What is taken off a line is its final period and the blank characters after
it. -/
theorem exists_eq_chopPeriod_append (l : Text) :
    ∃ b, blank b = true ∧
      l = Fix.chopPeriod l ++ (if (trimEnd l).getLast? = some '.' then '.' :: b else []) := by
  obtain ⟨b, hBlank, hEnd⟩ := exists_trimEnd l
  refine ⟨b, hBlank, ?_⟩
  by_cases hLast : (trimEnd l).getLast? = some '.'
  · obtain ⟨s, hs⟩ := List.getLast?_eq_some_iff.1 hLast
    have hChop : Fix.chopPeriod l = s := by
      simp only [Fix.chopPeriod, hs]
      simp
    rw [if_pos hLast, hChop]
    conv => lhs; rw [hEnd, hs]
    simp
  · simp [Fix.chopPeriod, hLast]

/-! ## The fix for a crowded header -/

theorem separateBody_of_not_mem {t : Text} (hNone : '\n' ∉ t) : Fix.separateBody t = t := by
  simp only [Fix.separateBody, lines_of_not_mem hNone]

theorem separateBody_append_feed {l : Text} (hNone : '\n' ∉ l) (t : Text) :
    Fix.separateBody (l ++ '\n' :: t) =
      if blank (firstLine t) then l ++ '\n' :: t else l ++ '\n' :: '\n' :: t := by
  obtain ⟨rest, hLines⟩ := lines_eq_cons t
  have hInserted : unlines (l :: [] :: firstLine t :: rest) = l ++ '\n' :: '\n' :: t := by
    rw [← hLines, unlines_cons l (by simp), unlines_cons_lines]
    rfl
  simp only [Fix.separateBody, lines_append_feed hNone, hLines]
  rw [hInserted]

@[simp] theorem ink_separateBody (t : Text) : ink (Fix.separateBody t) = ink t := by
  by_cases hFeed : '\n' ∈ t
  · obtain ⟨l, r, rfl, hNone⟩ := List.eq_append_cons_of_mem hFeed
    rw [separateBody_append_feed hNone]
    split
    · rfl
    · simp [ink, isBlank_newline]
  · rw [separateBody_of_not_mem hFeed]

theorem carriesTail_separateBody : CarriesTail Fix.separateBody := by
  intro t b hBlank
  by_cases hFeed : '\n' ∈ t
  · obtain ⟨l, r, rfl, hNone⟩ := List.eq_append_cons_of_mem hFeed
    refine ⟨b, hBlank, ?_⟩
    rw [List.append_assoc, List.cons_append, separateBody_append_feed hNone,
      separateBody_append_feed hNone, blank_firstLine_append r hBlank]
    split <;> simp
  · refine ⟨b, hBlank, ?_⟩
    rw [separateBody_of_not_mem hFeed]
    by_cases hLower : '\n' ∈ b
    · obtain ⟨g, r, rfl, hNone⟩ := List.eq_append_cons_of_mem hLower
      have hLine : '\n' ∉ t ++ g := by simp [hFeed, hNone]
      have hBelow : blank r = true := by
        rw [blank_append, blank_cons, Bool.and_eq_true, Bool.and_eq_true] at hBlank
        exact hBlank.2.2
      rw [← List.append_assoc, separateBody_append_feed hLine, if_pos (blank_firstLine hBelow)]
    · exact separateBody_of_not_mem (by simp [hFeed, hLower])

theorem carriesIndent_separateBody : CarriesIndent Fix.separateBody := by
  intro a t hBlank hNone
  refine ⟨a, hBlank, hNone, ?_⟩
  by_cases hFeed : '\n' ∈ t
  · obtain ⟨l, r, rfl, hLine⟩ := List.eq_append_cons_of_mem hFeed
    have hFirst : '\n' ∉ a ++ l := by simp [hNone, hLine]
    rw [← List.append_assoc, separateBody_append_feed hFirst, separateBody_append_feed hLine]
    split <;> simp
  · rw [separateBody_of_not_mem hFeed, separateBody_of_not_mem (by simp [hNone, hFeed])]

/-! ## Fixes that look at the head of the text -/

/-- A text begins with a blank character. -/
def Indented (t : Text) : Prop := ∃ c ∈ t.head?, isBlank c = true

theorem Indented.of_append {a : Text} (hBlank : blank a = true) (hNe : a ≠ []) (t : Text) :
    Indented (a ++ t) := by
  obtain ⟨c, cs, rfl⟩ := List.exists_cons_of_ne_nil hNe
  exact ⟨c, rfl, blank_of_mem hBlank (by simp)⟩

theorem Indented.takeWhile_isLetter {t : Text} (h : Indented t) : t.takeWhile isLetter = [] := by
  obtain ⟨c, hc, hBlank⟩ := h
  cases t with
  | nil => rfl
  | cons d ds =>
      have hEq : d = c := by simpa using hc
      rw [hEq]
      simp [Header.isLetter_eq_false_of_isBlank hBlank]

theorem lowercaseHead_of_indented {found t : Text} (hFound : ∃ c ∈ found.head?, isLetter c = true)
    (h : Indented t) : Fix.lowercaseHead found t = t := by
  obtain ⟨c, hc, hLetter⟩ := hFound
  obtain ⟨d, hd, hBlank⟩ := h
  cases found with
  | nil => simp at hc
  | cons x xs =>
      cases t with
      | nil => simp at hd
      | cons y ys =>
          have hx : x = c := by simpa using hc
          have hy : y = d := by simpa using hd
          have hOther := sameLetter_eq_false hLetter hBlank
          simp [Fix.lowercaseHead, beginsCaseless, hx, hy, hOther]

theorem addColon_of_no_opening {t : Text} (hNone : Header.opening? (firstLine t) = none) :
    mapFirstLine Fix.addColon t = t := by
  apply mapFirstLine_eq_self
  rw [Fix.addColon, hNone]

theorem addColon_of_indented {t : Text} (h : Indented t) : mapFirstLine Fix.addColon t = t := by
  apply addColon_of_no_opening
  rw [Header.opening?_eq_none_iff]
  intro c hc
  obtain ⟨d, hd, hBlank⟩ := h
  have hHead := mem_head?_of_isPrefix (List.takeWhile_prefix _) hc
  rw [Option.mem_def.1 hd, Option.mem_def, Option.some_inj] at hHead
  rw [← hHead]
  exact Header.isLetter_eq_false_of_isBlank hBlank

/-! ## Wrapping -/

theorem wrapLineAt_zero (t : Text) :
    Fix.wrapLineAt 0 t = mapFirstLine (Wrap.wrap Fix.wrapWidth) t := by
  obtain ⟨rest, hLines⟩ := lines_eq_cons t
  simp [Fix.wrapLineAt, mapFirstLine, hLines]

theorem wrapLineAt_succ_of_not_mem (k : Nat) {t : Text} (hNone : '\n' ∉ t) :
    Fix.wrapLineAt (k + 1) t = t := by
  simp [Fix.wrapLineAt, lines_of_not_mem hNone]

theorem wrapLineAt_succ_append_feed (k : Nat) {l : Text} (hNone : '\n' ∉ l) (t : Text) :
    Fix.wrapLineAt (k + 1) (l ++ '\n' :: t) = l ++ '\n' :: Fix.wrapLineAt k t := by
  have hNe : ∀ x, (lines t).set k x ≠ [] := by
    intro x hNil
    exact lines_ne_nil t ((List.set_eq_nil_iff k x).1 hNil)
  simp only [Fix.wrapLineAt, lines_append_feed hNone, List.getElem?_cons_succ]
  cases (lines t)[k]? with
  | none => rfl
  | some x => exact unlines_cons l (hNe _)

theorem wrap_of_blank (width : Int) {b : Text} (hBlank : blank b = true) :
    Wrap.wrap width b = [] := by
  rw [Wrap.wrap, Wrap.wrappedLines, words_of_blank hBlank]
  rfl

theorem carriesTail_wrapLineAt (k : Nat) : CarriesTail (Fix.wrapLineAt k) := by
  induction k with
  | zero =>
      rw [show Fix.wrapLineAt 0 = mapFirstLine (Wrap.wrap Fix.wrapWidth) from
        funext wrapLineAt_zero]
      apply CarriesTail.mapFirstLine
      intro l b hBlank
      refine ⟨[], rfl, ?_⟩
      rw [Wrap.wrap, Wrap.wrappedLines, words_append_of_blank l hBlank]
      exact (List.append_nil _).symm
  | succ k ih =>
      intro t b hBlank
      by_cases hFeed : '\n' ∈ t
      · obtain ⟨l, r, rfl, hNone⟩ := List.eq_append_cons_of_mem hFeed
        obtain ⟨b', hBlank', hBelow⟩ := ih r b hBlank
        refine ⟨b', hBlank', ?_⟩
        rw [List.append_assoc, List.cons_append, wrapLineAt_succ_append_feed k hNone,
          wrapLineAt_succ_append_feed k hNone, hBelow]
        simp
      · rw [wrapLineAt_succ_of_not_mem k hFeed]
        by_cases hLower : '\n' ∈ b
        · -- the lines below the text are blank, and blank lines are what they stay
          obtain ⟨g, r, rfl, hNone⟩ := List.eq_append_cons_of_mem hLower
          have hLine : '\n' ∉ t ++ g := by simp [hFeed, hNone]
          refine ⟨g ++ '\n' :: Fix.wrapLineAt k r, ?_, ?_⟩
          · simpa using hBlank
          · rw [← List.append_assoc, wrapLineAt_succ_append_feed k hLine, List.append_assoc]
        · exact ⟨b, hBlank, wrapLineAt_succ_of_not_mem k (by simp [hFeed, hLower])⟩

theorem carriesIndent_wrapLineAt (k : Nat) : CarriesIndent (Fix.wrapLineAt k) := by
  cases k with
  | zero =>
      rw [show Fix.wrapLineAt 0 = mapFirstLine (Wrap.wrap Fix.wrapWidth) from
        funext wrapLineAt_zero]
      apply CarriesIndent.mapFirstLine
      intro a l hBlank _
      refine ⟨[], rfl, by simp, ?_⟩
      rw [Wrap.wrap, Wrap.wrappedLines, words_blank_append hBlank]
      rfl
  | succ k =>
      intro a t hBlank hNone
      refine ⟨a, hBlank, hNone, ?_⟩
      by_cases hFeed : '\n' ∈ t
      · obtain ⟨l, r, rfl, hLine⟩ := List.eq_append_cons_of_mem hFeed
        have hFirst : '\n' ∉ a ++ l := by simp [hNone, hLine]
        rw [← List.append_assoc, wrapLineAt_succ_append_feed k hFirst,
          wrapLineAt_succ_append_feed k hLine, List.append_assoc]
      · rw [wrapLineAt_succ_of_not_mem k hFeed,
          wrapLineAt_succ_of_not_mem k (by simp [hNone, hFeed])]

theorem carriesTail_wrapAll (ks : List Nat) : CarriesTail fun t => wrapAll t ks := by
  induction ks with
  | nil => exact CarriesTail.id
  | cons k ks ih => exact ih.comp (carriesTail_wrapLineAt k)

theorem carriesIndent_wrapAll (ks : List Nat) : CarriesIndent fun t => wrapAll t ks := by
  induction ks with
  | nil => exact CarriesIndent.id
  | cons k ks ih => exact ih.comp (carriesIndent_wrapLineAt k)

/-! ## Line feeds in front -/

/-- Of the indices of lines, those from a line on, counted from that line. -/
def countedFrom (n : Nat) (ks : List Nat) : List Nat := (ks.filter (n ≤ ·)).map (· - n)

theorem countedFrom_zero (ks : List Nat) : countedFrom 0 ks = ks := by
  simp [countedFrom]

theorem countedFrom_cons (n k : Nat) (ks : List Nat) :
    countedFrom n (k :: ks) =
      if n ≤ k then (k - n) :: countedFrom n ks else countedFrom n ks := by
  by_cases h : n ≤ k <;> simp [countedFrom, h]

theorem countedFrom_countedFrom_one (n : Nat) (ks : List Nat) :
    countedFrom n (countedFrom 1 ks) = countedFrom (n + 1) ks := by
  induction ks with
  | nil => rfl
  | cons k ks ih =>
      cases k with
      | zero => simpa [countedFrom_cons] using ih
      | succ k => simp [countedFrom_cons, ih]

/-- A blank line above a text is trimmed off, and the indices are counted from the
line below it. -/
theorem trim_wrapAll_feed {a : Text} (hBlank : blank a = true) (hNone : '\n' ∉ a) (t : Text)
    (ks : List Nat) :
    trim (wrapAll (a ++ '\n' :: t) ks) = trim (wrapAll t (countedFrom 1 ks)) := by
  induction ks generalizing a t with
  | nil =>
      have hLine : blank (a ++ ['\n']) = true := by simp [hBlank, isBlank_newline]
      have hTrim := trim_blank_append hLine t
      rwa [List.append_assoc] at hTrim
  | cons k ks ih =>
      rw [wrapAll_cons, countedFrom_cons]
      cases k with
      | zero =>
          rw [wrapLineAt_zero, mapFirstLine_append_feed _ hNone, wrap_of_blank _ hBlank,
            if_neg (by omega)]
          exact ih rfl (by simp) t
      | succ k =>
          rw [wrapLineAt_succ_append_feed k hNone, if_pos (by omega), Nat.add_sub_cancel,
            wrapAll_cons]
          exact ih hBlank hNone (Fix.wrapLineAt k t)

/-- **Wrapping below a margin**: blank characters in front of a text move the
indices by the number of their line feeds. -/
theorem trim_wrapAll_margin {a : Text} (hBlank : blank a = true) (t : Text) (ks : List Nat) :
    trim (wrapAll (a ++ t) ks) = trim (wrapAll t (countedFrom (a.count '\n') ks)) := by
  obtain ⟨n, hCount⟩ : ∃ n, n = a.count '\n' := ⟨_, rfl⟩
  rw [← hCount]
  induction n generalizing a ks with
  | zero =>
      have hNone : '\n' ∉ a := List.count_eq_zero.1 hCount.symm
      obtain ⟨a', hBlank', -, hIndent⟩ := carriesIndent_wrapAll ks a t hBlank hNone
      dsimp only at hIndent
      rw [hIndent, trim_blank_append hBlank', countedFrom_zero]
  | succ n ih =>
      have hFeed : '\n' ∈ a := List.count_pos_iff.1 (by omega)
      obtain ⟨g, r, rfl, hNone⟩ := List.eq_append_cons_of_mem hFeed
      rw [blank_append, blank_cons, Bool.and_eq_true, Bool.and_eq_true] at hBlank
      have hRest : n = r.count '\n' := by
        have hAbove : g.count '\n' = 0 := List.count_eq_zero.2 hNone
        rw [List.count_append, hAbove, List.count_cons_self] at hCount
        omega
      rw [List.append_assoc, List.cons_append, trim_wrapAll_feed hBlank.1 hNone,
        ih hBlank.2.2 _ hRest, countedFrom_countedFrom_one]

/-- Below a line feed the header is out of reach of what works on the first
line. -/
theorem chopPeriod_margin {a : Text} (hBlank : blank a = true) (hFeed : '\n' ∈ a) (t : Text) :
    mapFirstLine Fix.chopPeriod (a ++ t) = a ++ t := by
  obtain ⟨g, r, rfl, hNone⟩ := List.eq_append_cons_of_mem hFeed
  rw [blank_append, Bool.and_eq_true] at hBlank
  rw [List.append_assoc, List.cons_append, mapFirstLine_append_feed _ hNone,
    chopPeriod_of_blank hBlank.1]

/-- Setting off the body puts one more line feed in front at most. -/
theorem exists_separateBody_margin {a : Text} (hBlank : blank a = true) (hFeed : '\n' ∈ a)
    (t : Text) :
    ∃ a', blank a' = true ∧ Fix.separateBody (a ++ t) = a' ++ t := by
  obtain ⟨g, r, rfl, hNone⟩ := List.eq_append_cons_of_mem hFeed
  rw [List.append_assoc, List.cons_append, separateBody_append_feed hNone]
  split
  · exact ⟨g ++ '\n' :: r, hBlank, by simp⟩
  · refine ⟨g ++ '\n' :: '\n' :: r, ?_, by simp⟩
    simpa [isBlank_newline] using hBlank

end CommitLint
