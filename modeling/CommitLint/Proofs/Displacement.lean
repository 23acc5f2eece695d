import CommitLint.Proofs.Margin

/-!
# What a margin keeps a pass from

A pass over a text with a margin does not find the type or the colon, and below a
line feed neither the final period nor the gap under the header.  Each of these
can still be told from the result: by the type, by the number of colons, by the
number of periods, and by the ink of the first paragraph.

So the result of the pass over the trimmed text is missed as soon as one of these
fixes is asked for, or the wraps below the margin differ from those without it.
`Unmoved` says that none of this is the case.

Main result: `trim_repairAll_eq_iff`.
-/

namespace CommitLint

open Text

/-! ## The type -/

theorem type_chopPeriod (l : Text) :
    (Header.parse (Fix.chopPeriod l)).type = (Header.parse l).type := by
  obtain ⟨b, -, hSplit⟩ := exists_eq_chopPeriod_append l
  have hStop : ∀ c ∈ (if (trimEnd l).getLast? = some '.' then '.' :: b else []).head?,
      isLetter c = false := by
    split
    · intro c hc
      have hDot : c = '.' := by simpa using hc.symm
      rw [hDot]
      decide
    · simp
  have hLetters := Header.takeWhile_isLetter_append (Fix.chopPeriod l) hStop
  rw [← hSplit] at hLetters
  rw [Header.type_eq, Header.type_eq, hLetters]

theorem firstLine_mapFirstLine {f : Text → Text} {t : Text} (hNone : '\n' ∉ f (firstLine t)) :
    firstLine (mapFirstLine f t) = f (firstLine t) := by
  obtain ⟨r, -, hHead, hMap⟩ := exists_firstLine_append t
  rw [hMap, firstLine_append hNone]
  cases r with
  | nil => simp [firstLine]
  | cons c cs => simp [firstLine, hHead c (by simp)]

theorem newline_not_mem_firstLine (t : Text) : '\n' ∉ firstLine t := by
  obtain ⟨rest, hLines⟩ := lines_eq_cons t
  exact newline_not_mem_of_mem_lines (t := t) (by simp [hLines])

theorem firstLine_separateBody (t : Text) : firstLine (Fix.separateBody t) = firstLine t := by
  by_cases hFeed : '\n' ∈ t
  · obtain ⟨l, r, rfl, hNone⟩ := List.eq_append_cons_of_mem hFeed
    rw [separateBody_append_feed hNone]
    split
    · rfl
    · rw [firstLine_append_feed hNone, firstLine_append_feed hNone]
  · rw [separateBody_of_not_mem hFeed]

theorem head?_of_type {line found : Text} (hType : (Header.parse line).type = some found) :
    ∃ c ∈ line.head?, isBlank c = false := by
  rw [Header.type_eq, nonempty?_eq_some_iff] at hType
  obtain ⟨rfl, hNe⟩ := hType
  obtain ⟨c, hc⟩ := Option.isSome_iff_exists.1 (List.isSome_head?.2 hNe)
  refine ⟨c, mem_head?_of_isPrefix (List.takeWhile_prefix _) hc, ?_⟩
  exact Header.isBlank_eq_false_of_isLetter (List.mem_takeWhile_imp (List.mem_of_mem_head? hc))

theorem Message.type_firstLine_dropStop (m : Message) (t : Text) :
    (Header.parse (firstLine (m.dropStop t))).type = (Header.parse (firstLine t)).type := by
  rw [dropStop]
  split
  · have hNone : '\n' ∉ Fix.chopPeriod (firstLine t) := fun hMem =>
      newline_not_mem_firstLine t ((chopPeriod_isPrefix _).subset hMem)
    rw [firstLine_mapFirstLine hNone, type_chopPeriod]
  · rfl

theorem Message.firstLine_setOff (m : Message) (t : Text) :
    firstLine (m.setOff t) = firstLine t := by
  rw [setOff]
  split
  · exact firstLine_separateBody t
  · rfl

/-- The fixes after the colon keep the type. -/
theorem Message.type_reading_layOut (m : Message) {t found : Text}
    (hType : (Header.parse (firstLine t)).type = some found) :
    (reading (m.layOut t)).parts.type = some found := by
  rw [← m.type_firstLine_dropStop, ← m.firstLine_setOff] at hType
  rw [layOut, type_reading_wrapAll (head?_of_type hType)]
  exact hType

/-! ## Colons and periods -/

theorem count_mapFirstLine (f : Text → Text) (t : Text) (c : Char) :
    (mapFirstLine f t).count c + (firstLine t).count c =
      t.count c + (f (firstLine t)).count c := by
  obtain ⟨r, hSplit, -, hMap⟩ := exists_firstLine_append t
  have hText : t.count c = (firstLine t).count c + r.count c := by
    conv => lhs; rw [hSplit]
    exact List.count_append
  rw [hMap, List.count_append]
  omega

theorem count_eq_zero_of_blank {c : Char} (hInk : isBlank c = false) {b : Text}
    (hBlank : blank b = true) : b.count c = 0 := by
  rw [List.count_eq_zero]
  intro hMem
  rw [blank_of_mem hBlank hMem] at hInk
  contradiction

theorem count_chopPeriod {c : Char} (hInk : isBlank c = false) (l : Text) :
    (Fix.chopPeriod l).count c +
      (if c = '.' ∧ (trimEnd l).getLast? = some '.' then 1 else 0) = l.count c := by
  obtain ⟨b, hBlank, hSplit⟩ := exists_eq_chopPeriod_append l
  have hGap := count_eq_zero_of_blank hInk hBlank
  conv => rhs; rw [hSplit]
  rw [List.count_append]
  by_cases hLast : (trimEnd l).getLast? = some '.'
  · rw [if_pos hLast]
    by_cases hDot : c = '.'
    · subst hDot
      simp [hLast, hGap]
    · simp [hDot, hGap, Ne.symm hDot]
  · simp [hLast]

theorem count_eq_of_ink_eq {s t : Text} (h : ink s = ink t) {c : Char} (hInk : isBlank c = false) :
    s.count c = t.count c := by
  rw [← count_ink hInk, h, count_ink hInk]

theorem count_eq_of_trim_eq {s t : Text} (h : trim s = trim t) {c : Char}
    (hInk : isBlank c = false) : s.count c = t.count c := by
  apply count_eq_of_ink_eq _ hInk
  rw [← ink_trim s, h, ink_trim]

/-- A colon is put into every text whose first line has a type. -/
theorem count_mapFirstLine_addColon {t : Text}
    (hOpening : (Header.opening? (firstLine t)).isSome = true) :
    (mapFirstLine Fix.addColon t).count ':' = t.count ':' + 1 := by
  obtain ⟨o, ho⟩ := Option.isSome_iff_exists.1 hOpening
  have hLine : (Fix.addColon (firstLine t)).count ':' = (firstLine t).count ':' + 1 := by
    have hTrim : (trim o.rest).count ':' = o.rest.count ':' :=
      count_eq_of_trim_eq (trim_trim _) (by decide)
    have hSplit := Header.eq_of_opening? ho
    rw [Fix.addColon, ho]
    conv => rhs; rw [hSplit]
    simp [hTrim]
    omega
  have hText := count_mapFirstLine Fix.addColon t ':'
  omega

namespace Message

variable (m : Message)

/-- Of what is not blank, the fixes after the colon take off the final period of
the first line alone. -/
theorem count_layOut (t : Text) {c : Char} (hInk : isBlank c = false) :
    (m.layOut t).count c +
      (if m.endsInPeriod ∧ c = '.' ∧ (trimEnd (firstLine t)).getLast? = some '.' then 1 else 0) =
      t.count c := by
  have hLaid : (m.layOut t).count c = (m.dropStop t).count c := by
    apply count_eq_of_ink_eq _ hInk
    rw [layOut, ink_wrapAll, setOff]
    split
    · rw [ink_separateBody]
    · rfl
  rw [hLaid, dropStop]
  cases m.endsInPeriod with
  | false => simp
  | true =>
      have hLine := count_chopPeriod hInk (firstLine t)
      have hText := count_mapFirstLine Fix.chopPeriod t c
      simp only [if_true, true_and]
      omega

/-- A colon that is asked for is put in if the text has a header with a type. -/
theorem count_punctuate {t : Text} (hLacks : m.lacksColon = true)
    (hOpening : (Header.opening? (firstLine t)).isSome = true) :
    (m.punctuate t).count ':' = t.count ':' + 1 := by
  rw [punctuate, if_pos hLacks]
  exact count_mapFirstLine_addColon hOpening

end Message

/-! ## The first paragraph -/

/-- The ink of the lines above the first blank one. -/
def paragraphInk (ls : List Text) : Text := (ls.takeWhile fun l => !blank l).flatMap ink

theorem paragraphInk_cons {l : Text} (hInk : blank l = false) (ls : List Text) :
    paragraphInk (l :: ls) = ink l ++ paragraphInk ls := by
  simp [paragraphInk, hInk]

theorem paragraphInk_cons_of_blank {l : Text} (hBlank : blank l = true) (ls : List Text) :
    paragraphInk (l :: ls) = [] := by
  simp [paragraphInk, hBlank]

theorem paragraphInk_append {ks : List Text} (hInk : ∀ k ∈ ks, blank k = false)
    (ls : List Text) : paragraphInk (ks ++ ls) = ks.flatMap ink ++ paragraphInk ls := by
  induction ks with
  | nil => rfl
  | cons k ks ih =>
      have hTail := ih fun j hj => hInk j (by simp [hj])
      rw [List.cons_append, paragraphInk_cons (hInk k (by simp)), hTail, List.flatMap_cons,
        List.append_assoc]

theorem Wrap.not_blank_of_mem_fillFrom (width : Int) {line : Text} {ws : List Text}
    (hLine : blank line = false) (hWords : ∀ w ∈ ws, blank w = false) :
    ∀ l ∈ fillFrom width line ws, blank l = false := by
  induction ws generalizing line with
  | nil => simpa [fillFrom] using hLine
  | cons w ws ih =>
      have hRest : ∀ v ∈ ws, blank v = false := fun v hv => hWords v (by simp [hv])
      rw [fillFrom]
      split
      · exact ih (by simp [hLine]) hRest
      · intro l hl
        rcases List.mem_cons.1 hl with rfl | hl
        · exact hLine
        · exact ih (hWords w (by simp)) hRest l hl

/-- No line of a wrapped line is blank, unless that line is. -/
theorem Wrap.not_blank_of_mem_lines_wrap (width : Int) {l x : Text} (hInk : blank l = false)
    (hx : x ∈ lines (wrap width l)) : blank x = false := by
  have hEach : ∀ w ∈ words l, blank w = false := by
    intro w hw
    obtain ⟨c, hc⟩ := List.exists_mem_of_ne_nil w (word_ne_nil hw)
    exact not_blank_of_mem hc (solid_of_mem_words hw c hc)
  cases hWords : words l with
  | nil =>
      rw [words_eq_nil_iff, hInk] at hWords
      contradiction
  | cons w ws =>
      rw [hWords] at hEach
      rw [lines_wrap hWords] at hx
      exact not_blank_of_mem_fillFrom width (hEach w (by simp)) (fun v hv => hEach v (by simp [hv]))
        x hx

theorem paragraphInk_rewrapAt (k : Nat) (ls : List Text) :
    paragraphInk (rewrapAt k ls) = paragraphInk ls := by
  induction ls generalizing k with
  | nil => cases k <;> rfl
  | cons l ls ih =>
      cases hBlank : blank l with
      | true =>
          rw [paragraphInk_cons_of_blank hBlank]
          cases k with
          | zero =>
              rw [rewrapAt, wrap_of_blank _ hBlank]
              exact paragraphInk_cons_of_blank rfl ls
          | succ k => exact paragraphInk_cons_of_blank hBlank _
      | false =>
          rw [paragraphInk_cons hBlank]
          cases k with
          | zero =>
              rw [rewrapAt, paragraphInk_append fun x hx =>
                Wrap.not_blank_of_mem_lines_wrap _ hBlank hx, ← ink_unlines, unlines_lines,
                Wrap.ink_wrap]
          | succ k => rw [rewrapAt, paragraphInk_cons hBlank, ih]

/-- **Wrapping keeps the first paragraph**, wherever the indices point. -/
theorem paragraphInk_wrapAll (t : Text) (ks : List Nat) :
    paragraphInk (lines (wrapAll t ks)) = paragraphInk (lines t) := by
  induction ks generalizing t with
  | nil => rfl
  | cons k ks ih => rw [wrapAll_cons, ih, lines_wrapLineAt, paragraphInk_rewrapAt]

/-! ## What must not be asked for -/

/-- A fault of the type, if there is one, waits for a decision that has not been
made. -/
def Message.AwaitsType (c : Choices) (m : Message) : Prop :=
  selects m.issues .knownType = true → requiresChoice m.issues = true ∧ c.type = none

/-- Below a margin with a number of line feeds nothing is asked for that the margin
keeps from being done, or makes a difference to. -/
structure Message.Unmoved (c : Choices) (feeds : Nat) (m : Message) : Prop where
  /-- The type is left alone. -/
  type : m.AwaitsType c
  /-- No colon is missing. -/
  colon : selects m.issues .colonPresent = false
  /-- The header is on the first line, or it is left alone, and so is the gap below
  it, and the wraps come to the same further up. -/
  places : feeds = 0 ∨
    (selects m.issues .noFinalPeriod = false ∧ selects m.issues .blankLine = false ∧
      wrapAll (unlines m.lines) (countedFrom feeds (longIndices m.issues)) =
        wrapAll (unlines m.lines) (longIndices m.issues))

variable {t : Text} {c : Choices}

/-- A fault of the type that waits for a decision is left alone. -/
theorem repairAll_knownType_eq_self {m : Message} (hType : m.AwaitsType c) (x : Text) :
    repairAll c x (Rule.check .knownType m) = x := by
  rcases repairAll_knownType_cases c m with ⟨-, hSame⟩ |
    ⟨hSelects, ⟨found, -, hFree, -⟩ | ⟨k, hChoice, -⟩⟩
  · exact hSame x
  · rw [(hType hSelects).1] at hFree
    contradiction
  · rw [(hType hSelects).2] at hChoice
    contradiction

/-- If the type is left alone and no colon is missing, a pass begins with the final
period. -/
theorem fixAll_eq_layOut (hInk : blank t = false)
    (hType : (Message.reading t).AwaitsType c)
    (hColon : (Message.reading t).lacksColon = false) :
    fixAll c t = (Message.reading t).layOut (trim t) := by
  rw [fixAll_eq_repairAll c hInk, Message.repairAll_issues_eq, repairAll_knownType_eq_self hType,
    Message.punctuate, hColon]
  rfl

/-- **Nothing is missed** below a margin if nothing of it is asked for. -/
theorem trim_layOut_of_unmoved (hInk : blank t = false)
    (h : (Message.reading t).Unmoved c ((margin t).count '\n')) :
    trim ((Message.reading t).layOut t) = trim (fixAll c t) := by
  have hColon := h.colon
  rw [Message.selects_colonPresent] at hColon
  rw [fixAll_eq_layOut hInk h.type hColon]
  by_cases hFeed : '\n' ∈ margin t
  · have hSome : (margin t).count '\n' ≠ 0 := fun hZero => List.count_eq_zero.1 hZero hFeed
    obtain ⟨hPeriod, hCrowd, hWraps⟩ := h.places.resolve_left hSome
    rw [Message.selects_noFinalPeriod] at hPeriod
    rw [Message.selects_blankLine] at hCrowd
    rw [Message.longIndices_issues] at hWraps
    have hLines : unlines (Message.reading t).lines = trim t := unlines_lines (trim t)
    rw [hLines] at hWraps
    obtain ⟨n, hn, hBelow⟩ := exists_trim_layOut hInk hFeed (.reading t)
    rw [hn hCrowd, hWraps] at hBelow
    rw [hBelow, Message.layOut_eq_wrapAll _ hPeriod hCrowd, trim_wrapAll (tidy_lines_trim hInk)]
  · exact trim_layOut_of_not_mem hFeed _

/-! ## What is missed below a margin -/

/-- A type below a margin stays as it is. -/
theorem type_layOut_margin (hInk : blank t = false) {found : Text}
    (hType : (Message.reading t).parts.type = some found) :
    (Message.reading ((Message.reading t).layOut t)).parts.type = some found := by
  have hFirst : (Header.parse (firstLine (trim t))).type = some found := hType
  by_cases hFeed : '\n' ∈ margin t
  · obtain ⟨n, -, hBelow⟩ := exists_trim_layOut hInk hFeed (.reading t)
    have hTrim : trim ((Message.reading t).layOut t) =
        trim (wrapAll (trim t) (countedFrom n (Message.reading t).long)) := by
      rw [← hBelow, trim_trim]
    rw [Message.parts_eq_of_trim_eq hTrim, type_reading_wrapAll (head?_of_type hFirst)]
    exact hFirst
  · rw [Message.parts_eq_of_trim_eq (trim_layOut_of_not_mem hFeed (.reading t))]
    exact Message.type_reading_layOut _ hFirst

/-- A pass over the trimmed text leaves a known type, unless a decision is
missing. -/
theorem awaitsType_of_agree (hInk : blank t = false)
    (hCase : (Message.reading t).parts.type = none → c.type = none)
    (hAgree : trim ((Message.reading t).layOut t) = trim (fixAll c t)) :
    (Message.reading t).AwaitsType c := by
  rcases repairAll_knownType_cases c (Message.reading t) with ⟨hLeft, -⟩ | ⟨hSelects, hFix⟩
  · exact hLeft
  · exfalso
    have hChoice : requiresChoice (lint t) = true → c.type.isSome = true := by
      rw [lint_eq_issues hInk]
      intro hNeeds
      rcases hFix with ⟨found, -, hFree, -⟩ | ⟨k, hk, -⟩
      · rw [hNeeds] at hFree
        contradiction
      · rw [hk]
        rfl
    obtain ⟨found, hType⟩ : ∃ found, (Message.reading t).parts.type = some found := by
      rcases hFix with ⟨found, hType, -⟩ | ⟨k, hk, -⟩
      · exact ⟨found, hType⟩
      · rw [← Option.ne_none_iff_exists']
        intro hNone
        rw [hCase hNone] at hk
        contradiction
    obtain ⟨-, k, hKnown⟩ := exists_type_fixAll hInk hChoice
    rw [← Message.parts_eq_of_trim_eq hAgree, type_layOut_margin hInk hType] at hKnown
    have hNil := (Rule.check_knownType_eq_nil_iff (Message.reading t)).2 ⟨k, by rw [hType, hKnown]⟩
    rw [Message.selects_issues, hNil] at hSelects
    contradiction

/-- A colon that is missing is put in by a pass over the trimmed text. -/
theorem lacksColon_of_agree (hInk : blank t = false)
    (hType : (Message.reading t).AwaitsType c)
    (hAgree : trim ((Message.reading t).layOut t) = trim (fixAll c t)) :
    (Message.reading t).lacksColon = false := by
  cases hLacks : (Message.reading t).lacksColon with
  | false => rfl
  | true =>
      exfalso
      have hColon : isBlank ':' = false := by decide
      have hOpening : (Header.opening? (firstLine (trim t))).isSome = true := by
        rw [Message.lacksColon, Bool.and_eq_true, Message.type_reading, Option.isSome_map] at hLacks
        exact hLacks.1
      have hFixed : fixAll c t =
          (Message.reading t).layOut ((Message.reading t).punctuate (trim t)) := by
        rw [fixAll_eq_repairAll c hInk, Message.repairAll_issues_eq,
          repairAll_knownType_eq_self hType]
      have hCount := count_eq_of_trim_eq hAgree hColon
      have hBelow := (Message.reading t).count_layOut t hColon
      have hAbove :=
        (Message.reading t).count_layOut ((Message.reading t).punctuate (trim t)) hColon
      have hOne := (Message.reading t).count_punctuate hLacks hOpening
      have hTrim := count_eq_of_trim_eq (trim_trim t) hColon
      rw [hFixed] at hCount
      simp at hBelow hAbove
      omega

/-- A final period is taken off by a pass over the trimmed text. -/
theorem endsInPeriod_of_agree (hInk : blank t = false) (hFeed : '\n' ∈ margin t)
    (hFixed : fixAll c t = (Message.reading t).layOut (trim t))
    (hAgree : trim ((Message.reading t).layOut t) = trim (fixAll c t)) :
    (Message.reading t).endsInPeriod = false := by
  cases hPeriod : (Message.reading t).endsInPeriod with
  | false => rfl
  | true =>
      exfalso
      obtain ⟨n, -, hBelow⟩ := exists_trim_layOut hInk hFeed (.reading t)
      have hLast := (Message.getLast?_ink_of_endsInPeriod hPeriod).1
      rw [getLast?_ink] at hLast
      have hAbove := (Message.reading t).count_layOut (trim t) isBlank_period
      rw [if_pos ⟨hPeriod, rfl, hLast⟩] at hAbove
      have hKept : (wrapAll (trim t) (countedFrom n (Message.reading t).long)).count '.' =
          (trim t).count '.' := count_eq_of_ink_eq (ink_wrapAll _ _) isBlank_period
      rw [← hBelow, hAgree, hFixed,
        count_eq_of_trim_eq (trim_trim _) isBlank_period] at hKept
      omega

/-- The first paragraph of a crowded header goes on below it; once it is set off, it
does not. -/
theorem paragraphInk_ne_of_crowdsHeader (hInk : blank t = false)
    (hCrowd : Message.crowdsHeader (lines (trim t)) = true) :
    Tidy (lines (Fix.separateBody (trim t))) ∧
      paragraphInk (lines (Fix.separateBody (trim t))) ≠ paragraphInk (lines (trim t)) := by
  have hTidy := tidy_lines_trim hInk
  have hText := unlines_lines (trim t)
  obtain ⟨header, l, rest, hLines, hLine⟩ := Message.exists_of_crowdsHeader hCrowd
  rw [hLines] at hTidy hText ⊢
  have hFeed : ∀ k ∈ header :: [] :: l :: rest, '\n' ∉ k := by
    intro k hk
    simp only [List.mem_cons] at hk
    rcases hk with rfl | rfl | hk
    · exact hTidy.noFeed _ (by simp)
    · simp
    · exact hTidy.noFeed k (by simp [hk])
  have hSpaced : lines (Fix.separateBody (trim t)) = header :: [] :: l :: rest := by
    rw [← hText, separateBody_unlines hTidy.noFeed hLine, lines_unlines (by simp) hFeed]
  have hHead : blank header = false := by
    obtain ⟨x, hx, d, hd, hdInk⟩ := hTidy.headInk
    have hEq : header = x := by simpa using hx
    rw [hEq]
    exact not_blank_of_mem (List.mem_of_mem_head? hd) hdInk
  rw [hSpaced]
  constructor
  · exact
      { noFeed := hFeed
        headInk := by simpa using hTidy.headInk
        lastInk := by simpa using hTidy.lastInk }
  · intro hSame
    rw [paragraphInk_cons hHead, paragraphInk_cons_of_blank rfl, paragraphInk_cons hHead,
      paragraphInk_cons hLine, List.append_cancel_left_eq] at hSame
    have hNil : ink l = [] := (List.append_eq_nil_iff.1 hSame.symm).1
    rw [ink_eq_nil_iff, hLine] at hNil
    contradiction

/-- A crowded header is set off by a pass over the trimmed text. -/
theorem crowdsHeader_of_agree (hInk : blank t = false) (hFeed : '\n' ∈ margin t)
    (hFixed : fixAll c t = (Message.reading t).layOut (trim t))
    (hPeriod : (Message.reading t).endsInPeriod = false)
    (hAgree : trim ((Message.reading t).layOut t) = trim (fixAll c t)) :
    Message.crowdsHeader (Message.reading t).lines = false := by
  cases hCrowd : Message.crowdsHeader (Message.reading t).lines with
  | false => rfl
  | true =>
      exfalso
      obtain ⟨n, -, hBelow⟩ := exists_trim_layOut hInk hFeed (.reading t)
      obtain ⟨hTidy, hDiffer⟩ := paragraphInk_ne_of_crowdsHeader hInk hCrowd
      have hLaid : (Message.reading t).layOut (trim t) =
          wrapAll (Fix.separateBody (trim t)) (Message.reading t).long := by
        simp [Message.layOut, Message.dropStop, Message.setOff, hPeriod, hCrowd]
      rw [hAgree, hFixed, hLaid, trim_wrapAll hTidy] at hBelow
      have hSame := congrArg (fun x => paragraphInk (lines x)) hBelow
      rw [paragraphInk_wrapAll, paragraphInk_wrapAll] at hSame
      exact hDiffer hSame

/-- **Where the passes agree**, nothing that a margin keeps from being done was asked
for. -/
theorem unmoved_of_agree (hInk : blank t = false)
    (hCase : (Message.reading t).parts.type = none → c.type = none)
    (hAgree : trim ((Message.reading t).layOut t) = trim (fixAll c t)) :
    (Message.reading t).Unmoved c ((margin t).count '\n') := by
  have hType := awaitsType_of_agree hInk hCase hAgree
  have hColon := lacksColon_of_agree hInk hType hAgree
  refine
    { type := hType
      colon := by rw [Message.selects_colonPresent]; exact hColon
      places := ?_ }
  by_cases hFeed : '\n' ∈ margin t
  · right
    have hFixed := fixAll_eq_layOut hInk hType hColon
    have hPeriod := endsInPeriod_of_agree hInk hFeed hFixed hAgree
    have hCrowd := crowdsHeader_of_agree hInk hFeed hFixed hPeriod hAgree
    have hTidy := tidy_lines_trim hInk
    obtain ⟨n, hn, hBelow⟩ := exists_trim_layOut hInk hFeed (.reading t)
    rw [hn hCrowd, hAgree, hFixed, Message.layOut_eq_wrapAll _ hPeriod hCrowd,
      trim_wrapAll hTidy] at hBelow
    have hLines : unlines (Message.reading t).lines = trim t := unlines_lines (trim t)
    rw [Message.selects_noFinalPeriod, Message.selects_blankLine, Message.longIndices_issues,
      hLines]
    exact ⟨hPeriod, hCrowd, hBelow.symm⟩
  · exact Or.inl (List.count_eq_zero.2 hFeed)

/--
**When the issues may be repaired in the text as it was given**: up to trimming,
this gives the message that is repaired after trimming exactly if nothing stands in
front of the message, or the margin gives way to a type that was missing, or
nothing is asked for that the margin keeps from being done.
-/
theorem trim_repairAll_eq_iff (c : Choices) {t : Text} {m : Message}
    (hParse : Message.parse? t = some m) :
    trim (repairAll c t m.issues) = trim (fixAll c t) ↔
      margin t = [] ∨ (m.parts.type = none ∧ c.type ≠ none) ∨
        m.Unmoved c ((margin t).count '\n') := by
  have hInk : blank t = false := by
    rw [← Bool.not_eq_true, ← Message.parse?_eq_none_iff, hParse]
    simp
  have hOwn : m = Message.reading t := by
    rw [Message.parse?_eq_reading hInk] at hParse
    exact (Option.some.inj hParse).symm
  subst hOwn
  obtain ⟨b, hBlank, hSplit⟩ := exists_margin_append t
  by_cases hNone : margin t = []
  · refine iff_of_true ?_ (Or.inl hNone)
    have hEnd := trim_repairAll_append_blank c hInk hBlank
    rw [hNone, List.nil_append] at hSplit
    rwa [← hSplit] at hEnd
  · by_cases hUntyped : (Message.reading t).parts.type = none ∧ c.type ≠ none
    · refine iff_of_true ?_ (Or.inr (Or.inl hUntyped))
      obtain ⟨b', hBlank', hTyped⟩ :=
        repairAll_knownType_untyped (blank_margin t) hBlank hInk hUntyped.1 hUntyped.2
      rw [← hSplit] at hTyped
      exact trim_repairAll_of_knownType hInk hBlank' hTyped
    · have hCase : (Message.reading t).parts.type = none → c.type = none := by
        intro hType
        by_contra hChoice
        exact hUntyped ⟨hType, hChoice⟩
      have hIndent : Indented t := by
        rw [hSplit]
        exact Indented.of_append (blank_margin t) hNone _
      rw [repairAll_margin hIndent hCase]
      constructor
      · intro hAgree
        exact Or.inr (Or.inr (unmoved_of_agree hInk hCase hAgree))
      · rintro (h | h | h)
        · exact absurd h hNone
        · exact absurd h hUntyped
        · exact trim_layOut_of_unmoved hInk h

/-- An unknown type that is left to the user, and a long line whose index belongs to
the short header. -/
theorem trim_repairAll_eq_below_margin :
    let t : Text := "\n\nfoo: x\n\n".toList ++ List.replicate 80 'y' ++ " \n".toList
    Message.parse? t = some (Message.reading t) ∧ (margin t).count '\n' = 2 ∧
      longIndices (Message.reading t).issues = [2] ∧
      trim (repairAll .undecided t (Message.reading t).issues) = trim (fixAll .undecided t) := by
  intro t
  have hParse : Message.parse? t = some (Message.reading t) :=
    Message.parse?_eq_reading (by decide +kernel)
  refine ⟨hParse, by decide +kernel, by decide +kernel, ?_⟩
  refine (trim_repairAll_eq_iff .undecided hParse).2 (Or.inr (Or.inr ?_))
  exact
    { type := fun _ => ⟨by decide +kernel, rfl⟩
      colon := by decide +kernel
      places := Or.inr ⟨by decide +kernel, by decide +kernel, by decide +kernel⟩ }

/-- A space in front keeps a type in upper case: the text stays as it is, and so does
its error. -/
theorem trim_repairAll_ne_of_space :
    let t : Text := " FEAT: thing".toList
    let issues := (Message.reading t).issues
    Message.parse? t = some (Message.reading t) ∧ repairAll .undecided t issues = t ∧
      lint (repairAll .undecided t issues) = issues ∧ issues.any Issue.isError = true ∧
      fixAll .undecided t = "feat: thing".toList ∧
      trim (repairAll .undecided t issues) ≠ trim (fixAll .undecided t) := by
  decide +kernel

end CommitLint
