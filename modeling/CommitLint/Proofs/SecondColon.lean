import CommitLint.Proofs.Displacement

/-!
# Putting in a second colon

The fix for a missing colon does not ask whether a colon is missing.  It rebuilds
every first line that has a type, and a colon that stands there already goes to the
head of the subject.  R4 is what keeps it from such a line; whoever carries the fix
out twice, or repairs the issues of an earlier text once more, puts in a second
colon.

The colons are followed by counting.  A first line with a type keeps one under every
fix, and the fix of R4 is the only one that changes the number of colons: `AddsColons`
is kept by one repair (`addsColons_repair`) and added up over a run
(`addsColons_repairAll`).  A text whose first line has no type after a pass does not
get one from the same issues, nor a colon (`count_repairAll_of_untyped`).

Main result: `insertColon_again`.
-/

namespace CommitLint

open Text

/-! ## Texts with a type -/

/-- The first line of a text has a type: it begins with a letter. -/
def HasType (t : Text) : Prop := ∃ c ∈ t.head?, isLetter c = true

theorem hasType_iff (t : Text) : HasType t ↔ (Header.opening? (firstLine t)).isSome = true := by
  rw [Option.isSome_iff_ne_none, Ne, Header.opening?_eq_none_iff]
  cases t with
  | nil => simp [HasType, firstLine]
  | cons d ds =>
      by_cases hFeed : d = '\n'
      · simp [HasType, firstLine, hFeed, newline_not_letter]
      · simp [HasType, firstLine, hFeed]

theorem hasType_iff_type (t : Text) :
    HasType t ↔ (Header.parse (firstLine t)).type ≠ none := by
  rw [hasType_iff, Header.type_parse, Option.isSome_iff_ne_none, Ne, Ne, Option.map_eq_none_iff]

theorem HasType.of_type_eq {s t : Text} (h : HasType s)
    (hType : (Header.parse (firstLine t)).type = (Header.parse (firstLine s)).type) :
    HasType t := by
  rw [hasType_iff_type] at h ⊢
  rwa [hType]

theorem hasType_name_append (k : CommitType) (x : Text) : HasType (k.name ++ x) := by
  obtain ⟨d, ds, hName⟩ := List.exists_cons_of_ne_nil k.name_ne_nil
  refine ⟨d, by rw [hName]; rfl, ?_⟩
  exact CommitType.isLetter_of_mem_name (k := k) (by simp [hName])

theorem HasType.head?_firstLine {t : Text} (h : HasType t) :
    ∃ c ∈ (firstLine t).head?, isBlank c = false := by
  rw [hasType_iff_type, Option.ne_none_iff_exists'] at h
  obtain ⟨found, hFound⟩ := h
  exact head?_of_type hFound

/-- Such a text is read with a type, whatever stands below its first line. -/
theorem HasType.type_reading {t : Text} (h : HasType t) :
    (Message.reading t).parts.type.isSome = true := by
  obtain ⟨o, hOpening⟩ := Option.isSome_iff_exists.1 ((hasType_iff t).1 h)
  have hType := (Opens.of_opening hOpening).type_isNone_eq_false.2
  rwa [Option.isNone_eq_false_iff] at hType

/-- A text whose header has a type has it on its first line, or below a margin. -/
theorem indented_of_not_hasType {t found : Text} (hNone : ¬ HasType t)
    (hFound : (Message.reading t).parts.type = some found) : Indented t := by
  obtain ⟨⟨d, hd, hLetter⟩, y, hTrim⟩ := Message.exists_append_of_type hFound
  obtain ⟨b, -, hSplit⟩ := exists_margin_append t
  cases hMargin : margin t with
  | nil =>
      rw [hMargin, hTrim, List.nil_append, List.append_assoc] at hSplit
      refine absurd ⟨d, ?_, hLetter⟩ hNone
      rw [hSplit]
      exact mem_head?_of_isPrefix (List.prefix_append _ _) hd
  | cons e es =>
      rw [hSplit]
      exact Indented.of_append (blank_margin t) (by simp [hMargin]) _

/-! ## Counting the colons -/

/-- The second text has a type, and a number of colons more than the first one. -/
structure AddsColons (n : Nat) (t t' : Text) : Prop where
  hasType : HasType t'
  count : t'.count ':' = t.count ':' + n

namespace AddsColons

variable {t : Text}

theorem refl (h : HasType t) : AddsColons 0 t t := ⟨h, rfl⟩

theorem trans {m n : Nat} {t' t'' : Text} (h : AddsColons m t t') (h' : AddsColons n t' t'') :
    AddsColons (m + n) t t'' := by
  refine ⟨h'.hasType, ?_⟩
  rw [h'.count, h.count, Nat.add_assoc]

/-- A fix that moves blank characters about and keeps the type. -/
theorem of_ink_eq {t' : Text} (h : HasType t) (hInk : ink t' = ink t)
    (hType : (Header.parse (firstLine t')).type = (Header.parse (firstLine t)).type) :
    AddsColons 0 t t' :=
  ⟨h.of_type_eq hType, count_eq_of_ink_eq hInk (by decide)⟩

theorem separateBody (h : HasType t) : AddsColons 0 t (Fix.separateBody t) :=
  of_ink_eq h (ink_separateBody t) (by rw [firstLine_separateBody])

theorem wrapLineAt (h : HasType t) (k : Nat) : AddsColons 0 t (Fix.wrapLineAt k t) := by
  have hHead := h.head?_firstLine
  have hKeeps := KeepsHead.wrapLineAt hHead k
  exact of_ink_eq h (ink_wrapLineAt k t) (Header.type_eq_of_words hHead hKeeps.1 hKeeps.2)

theorem chopPeriod (h : HasType t) : AddsColons 0 t (mapFirstLine Fix.chopPeriod t) := by
  have hNone : '\n' ∉ Fix.chopPeriod (firstLine t) := fun hMem =>
    newline_not_mem_firstLine t ((chopPeriod_isPrefix _).subset hMem)
  have hLine := count_chopPeriod (c := ':') (by decide) (firstLine t)
  have hText := count_mapFirstLine Fix.chopPeriod t ':'
  constructor
  · apply h.of_type_eq
    rw [firstLine_mapFirstLine hNone, type_chopPeriod]
  · simp only [show ¬ (':' = '.') by decide, false_and, if_false] at hLine
    omega

theorem addColon (h : HasType t) : AddsColons 1 t (mapFirstLine Fix.addColon t) := by
  obtain ⟨o, ho⟩ := Option.isSome_iff_exists.1 ((hasType_iff t).1 h)
  have hOpens := (Opens.of_opening ho).addColon
  refine ⟨?_, count_mapFirstLine_addColon ((hasType_iff t).1 h)⟩
  rw [hasType_iff, hOpens.firstLine_eq, hOpens.sealed.opening?]
  rfl

/-- A name in place of what has no colon. -/
theorem of_front {w x : Text} (hNone : ':' ∉ w) (k : CommitType) :
    AddsColons 0 (w ++ x) (k.name ++ x) := by
  have hName : ':' ∉ k.name := fun hMem =>
    absurd (CommitType.isLetter_of_mem_name hMem) (by decide)
  refine ⟨hasType_name_append k x, ?_⟩
  rw [List.count_append, List.count_append, List.count_eq_zero.2 hNone,
    List.count_eq_zero.2 hName, Nat.add_zero]

theorem putType (h : HasType t) (k : CommitType) : AddsColons 0 t (Fix.putType k t) := by
  have hNone : ':' ∉ t.takeWhile isLetter := fun hMem =>
    absurd (List.mem_takeWhile_imp hMem) (by decide)
  have hFront := of_front (x := t.dropWhile isLetter) hNone k
  rw [List.takeWhile_append_dropWhile] at hFront
  rwa [putType_of_letter k h.type_reading h]

end AddsColons

/-- What letters begin up to case has no colon there. -/
theorem colon_not_mem_take {found t : Text} (hLetters : ∀ c ∈ found, isLetter c = true)
    (hBegins : beginsCaseless found t = true) : ':' ∉ t.take found.length := by
  induction found generalizing t with
  | nil => simp
  | cons c cs ih =>
      cases t with
      | nil => simp
      | cons d ds =>
          rw [beginsCaseless, Bool.and_eq_true] at hBegins
          have hOne := isLetter_caseless (hLetters c (by simp))
          have hHead : ':' ≠ d := by
            intro hColon
            rw [sameLetter, ← hColon, beq_iff_eq] at hBegins
            rw [hBegins.1] at hOne
            exact absurd hOne (by decide)
          have hTail := ih (fun x hx => hLetters x (by simp [hx])) hBegins.2
          simpa [List.take_succ_cons, hHead] using hTail

theorem AddsColons.lowercaseHead {found t : Text} {k : CommitType} (h : HasType t)
    (hLetters : ∀ c ∈ found, isLetter c = true) (hCase : lower found = k.name) :
    AddsColons 0 t (Fix.lowercaseHead found t) := by
  rw [Fix.lowercaseHead, hCase]
  split
  · rename_i hBegins
    have hFront := of_front (x := t.drop found.length) (colon_not_mem_take hLetters hBegins) k
    rwa [List.take_append_drop] at hFront
  · exact refl h

/-! ## Repairing one issue and several -/

variable {c : Choices} {t : Text}

/-- **Only the fix for a missing colon adds one** to a text with a type, whatever text
the issue was found in. -/
theorem addsColons_repair {i : Issue} {s : Text} (hIssue : i ∈ (Message.reading s).issues)
    (h : HasType t) :
    AddsColons (if i.fix = some .insertColon then 1 else 0) t (i.repair c t) := by
  rw [Issue.repair]
  cases hFix : i.fix with
  | none => exact .refl h
  | some f =>
      rcases Message.fix_cases hIssue hFix with rfl | ⟨found, rfl, hFound⟩ | ⟨rfl, -⟩ | ⟨rfl, -⟩ |
        ⟨rfl, -⟩ | ⟨k, l, rfl, -, -⟩
      · show AddsColons 0 t (Fix.apply c (.choose .type) t)
        rw [Fix.apply]
        cases c.get .type with
        | none => exact .refl h
        | some k => exact .putType h k
      · obtain ⟨hType, -, k, hCase⟩ := Message.miscased?_eq_some_iff.1 hFound
        rw [Message.parts_reading, Header.type_eq, nonempty?_eq_some_iff] at hType
        have hLetters : ∀ d ∈ found, isLetter d = true := by
          rw [← hType.1]
          exact fun d hd => List.mem_takeWhile_imp hd
        exact .lowercaseHead h hLetters hCase
      · exact .addColon h
      · exact .chopPeriod h
      · exact .separateBody h
      · exact .wrapLineAt h k

/-- How many issues ask for a colon. -/
def colonFixes (issues : List Issue) : Nat := issues.countP fun i => i.fix == some .insertColon

/-- **A run of repairs** adds a colon for every issue that asks for one. -/
theorem addsColons_repairAll {s : Text} {issues : List Issue}
    (hIssues : ∀ i ∈ issues, i ∈ (Message.reading s).issues) (h : HasType t) :
    AddsColons (colonFixes issues) t (repairAll c t issues) := by
  induction issues generalizing t with
  | nil => exact .refl h
  | cons i is ih =>
      have hFirst := addsColons_repair (c := c) (hIssues i (by simp)) h
      have hRest := ih (fun j hj => hIssues j (by simp [hj])) hFirst.hasType
      have hBoth := hFirst.trans hRest
      rw [show repairAll c t (i :: is) = repairAll c (i.repair c t) is from rfl]
      rw [Nat.add_comm] at hBoth
      simpa [colonFixes, List.countP_cons] using hBoth

/-- R4 asks for one colon, and no other rule for any. -/
theorem colonFixes_issues (m : Message) :
    colonFixes m.issues = if selects m.issues .colonPresent = true then 1 else 0 := by
  have hOwn : colonFixes m.issues = (Rule.check .colonPresent m).length := by
    rw [← m.reports_issues, reports, ← List.countP_eq_length_filter, colonFixes]
    apply List.countP_congr
    intro i hi
    have hCheck := Message.mem_check_of_mem_issues hi
    rw [beq_iff_eq, beq_iff_eq]
    constructor
    · intro hFix
      exact (Option.some.inj (Rule.rule?_of_mem_check hCheck hFix)).symm
    · intro hRule
      rw [hRule] at hCheck
      exact (Rule.of_mem_checkColonPresent hCheck).1
  rw [hOwn, m.selects_issues]
  rcases Rule.check_eq_nil_or_singleton (r := .colonPresent) (by decide) m with
    hNil | ⟨i, hOne, -⟩
  · rw [hNil]
    rfl
  · rw [hOne]
    rfl

/-! ## Texts that do not get a type -/

/-- What has a type after the fix for the type has one after the pass. -/
theorem hasType_repairAll {s : Text}
    (h : HasType (repairAll c t (Rule.check .knownType (Message.reading s)))) :
    HasType (repairAll c t (Message.reading s).issues) := by
  have hSplit : (Message.reading s).issues =
      Rule.check .headerPresent (Message.reading s) ++ Rule.check .knownType (Message.reading s) ++
        (Rule.all.drop 2).flatMap (·.check (Message.reading s)) := by
    rw [Message.issues_eq]
    simp [Rule.all]
  have hNone : ∀ i ∈ Rule.check .headerPresent (Message.reading s), i.fix = none :=
    fun i hi => Rule.fix_eq_none_of_mem_check rfl hi
  have hMem : ∀ i ∈ (Rule.all.drop 2).flatMap (·.check (Message.reading s)),
      i ∈ (Message.reading s).issues := by
    intro i hi
    rw [hSplit]
    exact List.mem_append_right _ hi
  rw [hSplit, repairAll_append, repairAll_append, repairAll_of_fix_eq_none hNone]
  exact (addsColons_repairAll hMem h).hasType

/-- If the first line has no type after a pass, the fix for the type does not give it
one: no decision has been made for a missing type, and a type that is there stands
below a margin. -/
theorem repairAll_knownType_of_untyped (hInk : blank t = false)
    (hOnce : ¬ HasType (repairAll c t (Message.reading t).issues)) :
    repairAll c (repairAll c t (Message.reading t).issues)
        (Rule.check .knownType (Message.reading t)) =
      repairAll c t (Message.reading t).issues := by
  cases hType : (Message.reading t).parts.type with
  | none =>
      have hMissing := repairAll_knownType_of_missing hType c
      cases hChoice : c.type with
      | none => rw [hMissing, hChoice, Option.elim_none]
      | some k =>
          obtain ⟨x, hx⟩ := putType_of_type_eq_none hInk hType k
          refine absurd (hasType_repairAll ?_) hOnce
          rw [hMissing, hChoice, Option.elim_some, hx]
          exact hasType_name_append k _
  | some found =>
      have hRaw : ¬ HasType t := fun h =>
        hOnce (addsColons_repairAll (fun _ hi => hi) h).hasType
      have hLaid := repairAll_margin (c := c) (indented_of_not_hasType hRaw hType) (by simp [hType])
      have hKept : (Message.reading (repairAll c t (Message.reading t).issues)).parts.type =
          some found := by
        rw [hLaid]
        exact type_layOut_margin hInk hType
      refine repairAll_knownType_indented (indented_of_not_hasType hOnce hKept) fun _ => ?_
      rw [hKept]
      rfl

/-- So the same issues do not add a colon to it either. -/
theorem count_repairAll_of_untyped (hInk : blank t = false)
    (hOnce : ¬ HasType (repairAll c t (Message.reading t).issues)) :
    (repairAll c (repairAll c t (Message.reading t).issues) (Message.reading t).issues).count ':' =
      (repairAll c t (Message.reading t).issues).count ':' := by
  have hTyped := repairAll_knownType_of_untyped hInk hOnce
  rw [hasType_iff, Bool.not_eq_true, Option.isSome_eq_false_iff, Option.isNone_iff_eq_none] at hOnce
  have hAgain := (Message.reading t).repairAll_issues_eq c
    (repairAll c t (Message.reading t).issues)
  rw [hTyped, Message.punctuate, addColon_of_no_opening hOnce, ite_self] at hAgain
  have hCount := (Message.reading t).count_layOut (c := ':')
    (repairAll c t (Message.reading t).issues) (by decide)
  rw [hAgain]
  simpa using hCount

/-! ## The colon that is there already -/

/-- What follows the scope is, without blank characters around it, the colon and the gap
behind it, if there is a colon, and the subject. -/
theorem Header.exists_gap (rest : Text) :
    ∃ gap, blank gap = true ∧
      trim rest = (if (separated rest).1 then ':' :: gap else []) ++
        (separated rest).2.getD [] := by
  rcases separated_cases rest with ⟨b, r, hBlank, rfl⟩ | hNone
  · obtain ⟨gap, hGap, hEnd⟩ := exists_trimStart (trimEnd r)
    rw [← trimEnd_trimStart] at hEnd
    have hStart : trimStart (':' :: r) = ':' :: r := trimStart_of_head (by simp; decide)
    refine ⟨gap, hGap, ?_⟩
    rw [separated_of_colon hBlank, getD_nonempty?, trim_blank_append hBlank, trim, hStart,
      trimEnd_cons (by decide), if_pos rfl, List.cons_append]
    exact congrArg (':' :: ·) hEnd
  · refine ⟨[], rfl, ?_⟩
    rw [separated_of_no_colon hNone, getD_nonempty?]
    rfl

/-- The fix for a missing colon leaves nothing but an untyped first line alone. -/
theorem insertColon_eq_self_iff (c : Choices) (t : Text) :
    Fix.apply c .insertColon t = t ↔ (Header.parse (firstLine t)).type = none := by
  constructor
  · intro hSame
    by_contra hType
    have hCount := (AddsColons.addColon ((hasType_iff_type t).2 hType)).count
    rw [Fix.apply] at hSame
    rw [hSame] at hCount
    omega
  · intro hNone
    rw [Header.type_parse, Option.map_eq_none_iff] at hNone
    exact addColon_of_no_opening hNone

/-- What it makes of any other one. -/
theorem insertColon_of_type (c : Choices) {found : Text}
    (hType : (Header.parse (firstLine t)).type = some found) :
    let header := Header.parse (firstLine t)
    let fixed := Fix.apply c .insertColon t
    ∃ rest gap, firstLine t = found ++ Header.bracketed header.scope ++ rest ∧
      blank gap = true ∧
      trim rest = (if header.hasColon then ':' :: gap else []) ++ header.subject.getD [] ∧
      lines fixed = Header.write found header.scope (trim rest) :: (lines t).tail ∧
      Header.parse (firstLine fixed) =
        ⟨some found, header.scope, true, nonempty? (trim rest)⟩ := by
  rw [Header.type_parse, Option.map_eq_some_iff] at hType
  obtain ⟨o, hOpening, rfl⟩ := hType
  have hOpens := (Opens.of_opening hOpening).addColon
  obtain ⟨gap, hGap, hRest⟩ := Header.exists_gap o.rest
  have hColon := Header.separated_of_colon (b := []) rfl (' ' :: trim o.rest)
  have hSpace : trim (' ' :: trim o.rest) = trim o.rest := by
    rw [← List.singleton_append, trim_blank_append (by decide), trim_trim]
  rw [List.nil_append, hSpace] at hColon
  dsimp only
  rw [Header.parse_of_opening hOpening, Fix.apply, hOpens.lines_eq, hOpens.firstLine_eq,
    Header.parse_of_opening hOpens.sealed.opening?, hColon]
  exact ⟨o.rest, gap, Header.eq_of_opening? hOpening, hGap, hRest, rfl, rfl⟩

theorem type_insertColon (c : Choices) (t : Text) :
    (Header.parse (firstLine (Fix.apply c .insertColon t))).type =
      (Header.parse (firstLine t)).type := by
  cases hType : (Header.parse (firstLine t)).type with
  | none => rw [(insertColon_eq_self_iff c t).2 hType, hType]
  | some found =>
      obtain ⟨rest, gap, -, -, -, -, hParse⟩ := insertColon_of_type c hType
      rw [hParse]

/-- To repair the issues of a text again adds the colon of R4 to a first line with a
type. -/
theorem count_repairAll_again (c : Choices) (t : Text) :
    (repairAll c (repairAll c t (lint t)) (lint t)).count ':' =
      (repairAll c t (lint t)).count ':' +
        if selects (lint t) .colonPresent = true ∧
            (Header.parse (firstLine (repairAll c t (lint t)))).type ≠ none
          then 1 else 0 := by
  cases hInk : blank t with
  | true =>
      have hNone : ∀ i ∈ lint t, i.fix = none := by simp [lint_of_blank hInk]
      rw [repairAll_of_fix_eq_none hNone, repairAll_of_fix_eq_none hNone, lint_of_blank hInk]
      rfl
  | false =>
      rw [lint_eq_issues hInk]
      by_cases hOnce : HasType (repairAll c t (Message.reading t).issues)
      · have hAgain := (addsColons_repairAll (c := c) (s := t) (fun _ hi => hi) hOnce).count
        have hType := (hasType_iff_type _).1 hOnce
        rw [colonFixes_issues] at hAgain
        simpa [hType] using hAgain
      · have hAgain := count_repairAll_of_untyped hInk hOnce
        rw [hasType_iff_type] at hOnce
        simpa [hOnce] using hAgain

/--
**A second colon**: the fix for a missing colon leaves a text alone exactly if its first
line has no type.  Otherwise it writes the first line anew, with a colon and a space
between the type and the scope and the trimmed rest of the line, so that a colon that was
there already comes to stand at the head of the subject.  The type, the scope and the
other lines stay, and one colon is added.

So carrying it out twice comes to the same as carrying it out once exactly if the first
line has no type.  To repair the issues of a text once more adds one more colon if R4
found one missing and the first line has a type by then, and none otherwise.
-/
theorem insertColon_again (c : Choices) (t : Text) :
    let header := Header.parse (firstLine t)
    let fixed := Fix.apply c .insertColon t
    let once := repairAll c t (lint t)
    (fixed = t ↔ header.type = none) ∧
      (∀ found, header.type = some found → ∃ rest gap,
        firstLine t = found ++ Header.bracketed header.scope ++ rest ∧ blank gap = true ∧
          trim rest = (if header.hasColon then ':' :: gap else []) ++ header.subject.getD [] ∧
          lines fixed = Header.write found header.scope (trim rest) :: (lines t).tail ∧
          Header.parse (firstLine fixed) =
            ⟨some found, header.scope, true, nonempty? (trim rest)⟩ ∧
          fixed.count ':' = t.count ':' + 1) ∧
      (Fix.apply c .insertColon fixed = fixed ↔ header.type = none) ∧
      (repairAll c once (lint t)).count ':' = once.count ':' +
        if selects (lint t) .colonPresent = true ∧ (Header.parse (firstLine once)).type ≠ none
        then 1 else 0 := by
  dsimp only
  refine ⟨insertColon_eq_self_iff c t, ?_, ?_, count_repairAll_again c t⟩
  · intro found hType
    obtain ⟨rest, gap, hFirst, hGap, hRest, hLines, hParse⟩ := insertColon_of_type c hType
    have hTyped : HasType t := (hasType_iff_type t).2 (by rw [hType]; exact Option.some_ne_none _)
    exact ⟨rest, gap, hFirst, hGap, hRest, hLines, hParse, (AddsColons.addColon hTyped).count⟩
  · rw [insertColon_eq_self_iff, type_insertColon]

/-- A header with its colon gets another one.  So does a header that the fix has mended
already, and the list of issues that asked for the colon asks for it again. -/
theorem insertColon_again_ne :
    let t := "feat: y".toList
    let once := Fix.apply .undecided .insertColon "feat y".toList
    let issues := lint "feat add".toList
    (Header.parse (firstLine t)).type = some "feat".toList ∧
      (Header.parse (firstLine t)).hasColon = true ∧
      Fix.apply .undecided .insertColon t = "feat: : y".toList ∧
      Fix.apply .undecided .insertColon t ≠ t ∧
      once = t ∧ Fix.apply .undecided .insertColon once ≠ once ∧
      repairAll .undecided "feat add".toList issues = "feat: add".toList ∧
      repairAll .undecided "feat: add".toList issues = "feat: : add".toList := by
  decide +kernel

end CommitLint
