import CommitLint.Proofs.Acceptance
import CommitLint.Proofs.Content
import CommitLint.Proofs.History
import CommitLint.Proofs.Selections
import CommitLint.Proofs.Settling

/-!
# A decision for the type settles the type

When a type is missing or unknown, the user's decision is put in at the head of
the text, and all the other fixes of the pass come after it.  They put in a
colon, take off a period, set off the body and wrap lines, the header among
them; none of them may touch the type again.

Up to the long lines the text is followed by `Begins`, which says that it opens
with the name of a type, and whether a colon separates the subject.  Each fix
keeps it or puts the colon in (`exists_begins_unwrapped`).  Wrapping keeps the
first word of the header, and the type is the letters at the head of that word
(`Header.type_eq_of_words`).

Main results: `exists_begins_unwrapped`, `Session.applyAll_settles_type`.
-/

namespace CommitLint

open Text

/-! ## The type of a line -/

namespace Header

/-- The type of a line is the letters at its head. -/
theorem type_eq (line : Text) : (parse line).type = nonempty? (line.takeWhile isLetter) := by
  rw [type_parse, opening?]
  cases hLetters : line.takeWhile isLetter with
  | nil => rfl
  | cons c cs =>
      dsimp only
      cases scope? (line.dropWhile isLetter) with
      | none => rfl
      | some p => rfl

/-- Letters do not go on beyond what is not one. -/
theorem takeWhile_isLetter_append (w : Text) {r : Text}
    (hStop : ∀ c ∈ r.head?, isLetter c = false) :
    (w ++ r).takeWhile isLetter = w.takeWhile isLetter := by
  have hNone : r.takeWhile isLetter = [] := by
    cases r with
    | nil => rfl
    | cons c cs => simp [hStop c (by simp)]
  rw [List.takeWhile_append, hNone, List.append_nil]
  split
  · rename_i hAll
    exact ((List.takeWhile_prefix isLetter).eq_of_length hAll).symm
  · rfl

theorem isLetter_eq_false_of_endsWord {r : Text} (hEnd : endsWord r = true) :
    ∀ c ∈ r.head?, isLetter c = false := by
  cases r with
  | nil => simp
  | cons d ds => simpa using isLetter_eq_false_of_isBlank (c := d) hEnd

/-- Lines with the same first word have the same type. -/
theorem type_eq_of_words {line line' : Text} (hHead : ∃ c ∈ line.head?, isBlank c = false)
    (hHead' : ∃ c ∈ line'.head?, isBlank c = false) (hWords : words line' <+: words line) :
    (parse line').type = (parse line).type := by
  obtain ⟨w, r, rfl, -, -, hEnd, hSplit⟩ := exists_word_of_head? hHead
  obtain ⟨w', r', rfl, -, -, hEnd', hSplit'⟩ := exists_word_of_head? hHead'
  rw [hSplit, hSplit', List.cons_prefix_cons] at hWords
  rw [type_eq, type_eq, hWords.1,
    takeWhile_isLetter_append w (isLetter_eq_false_of_endsWord hEnd),
    takeWhile_isLetter_append w (isLetter_eq_false_of_endsWord hEnd')]

/-- What ends in a period has a subject. -/
theorem exists_subject_of_getLast? {r : Text} (h : (trimEnd r).getLast? = some '.') :
    ∃ u, (separated r).2 = some u := by
  rw [← getLast?_ink] at h
  have hSome : ∀ s, ink s ≠ [] → ∃ u, nonempty? (trim s) = some u := by
    intro s hInk
    refine ⟨trim s, nonempty?_eq_some_iff.2 ⟨rfl, ?_⟩⟩
    rwa [Ne, trim_eq_nil_iff, ← ink_eq_nil_iff]
  rcases separated_cases r with ⟨b, s, hBlank, rfl⟩ | hNone
  · rw [separated_of_colon hBlank]
    apply hSome
    intro hNil
    rw [ink_append, (ink_eq_nil_iff b).2 hBlank, ink_colon, hNil] at h
    exact absurd h (by decide)
  · rw [separated_of_no_colon hNone]
    apply hSome
    intro hNil
    rw [hNil] at h
    contradiction

end Header

/-! ## Texts that begin with a known type -/

/-- A text opens with the name of a type; the flag tells whether a colon
separates the subject. -/
def Begins (k : CommitType) (colon : Bool) (t : Text) : Prop :=
  ∃ o rest, Opens o rest t ∧ o.type = k.name ∧ (Header.separated o.rest).1 = colon

/-- A final period stands after the type and the scope. -/
theorem Opens.getLast?_rest {o : Header.Opening} {rest : List Text} {t : Text}
    (h : Opens o rest t) (hPeriod : (trimEnd o.toText).getLast? = some '.') :
    (trimEnd o.rest).getLast? = some '.' := by
  cases hBlank : blank o.rest with
  | false =>
      have hNe : trimEnd o.rest ≠ [] := by
        intro hNil
        rw [← blank_trimEnd, hNil] at hBlank
        contradiction
      obtain ⟨c, hLast⟩ := Option.isSome_iff_exists.1 (List.getLast?_isSome.2 hNe)
      rw [Header.Opening.toText, trimEnd_append _ hBlank, List.getLast?_append, hLast] at hPeriod
      rw [hLast]
      exact hPeriod
  | true =>
      exfalso
      rw [Header.Opening.toText, trimEnd_append_of_blank _ hBlank] at hPeriod
      cases hScope : o.scope with
      | none =>
          rw [hScope, Header.bracketed, List.append_nil] at hPeriod
          have hMem : '.' ∈ o.type :=
            (trimEnd_isPrefix o.type).subset (List.mem_of_getLast? hPeriod)
          exact absurd (h.sealed.letters _ hMem) (by decide)
      | some s =>
          have hParen : blank [')'] = false := by decide
          have hLast : (trimEnd [')']).getLast? = some ')' := by decide
          rw [hScope, Header.bracketed, ← List.append_assoc, trimEnd_append _ hParen,
            List.getLast?_append, hLast] at hPeriod
          exact absurd (Option.some.inj hPeriod) (by decide)

namespace Begins

variable {k : CommitType} {colon : Bool} {t : Text}

/-- What is read off the first line. -/
theorem parse_firstLine (h : Begins k colon t) :
    (Header.parse (firstLine t)).type = some k.name ∧
      (Header.parse (firstLine t)).hasColon = colon := by
  obtain ⟨o, rest, hOpens, hType, hColon⟩ := h
  rw [hOpens.firstLine_eq, Header.parse_of_opening hOpens.sealed.opening?]
  exact ⟨congrArg some hType, hColon⟩

theorem head?_firstLine (h : Begins k colon t) :
    ∃ c ∈ (firstLine t).head?, isBlank c = false := by
  obtain ⟨o, rest, hOpens, -, -⟩ := h
  obtain ⟨c, hc, hLetter⟩ := hOpens.head?_header
  rw [hOpens.firstLine_eq]
  exact ⟨c, hc, Header.isBlank_eq_false_of_isLetter hLetter⟩

/-- A type right before a colon. -/
theorem of_colon (k : CommitType) (x : Text) : Begins k true (k.name ++ ':' :: x) := by
  obtain ⟨rest, hLines⟩ := lines_eq_cons (':' :: x)
  have hText : k.name ++ ':' :: x = unlines ((k.name ++ firstLine (':' :: x)) :: rest) := by
    rw [unlines_append_head, ← hLines, unlines_lines]
  have hFirst : firstLine (':' :: x) = ':' :: firstLine x := rfl
  have hLine : (⟨k.name, none, ':' :: firstLine x⟩ : Header.Opening).toText =
      k.name ++ firstLine (':' :: x) := by
    simp [Header.Opening.toText, Header.bracketed, hFirst]
  refine ⟨⟨k.name, none, ':' :: firstLine x⟩, rest, ?_, rfl, ?_⟩
  · refine
      { sealed :=
          { type_ne_nil := k.name_ne_nil
            letters := fun c hc => CommitType.isLetter_of_mem_name hc
            scope_closed := by simp
            rest_head := fun _ => by simp; decide
            rest_scope := fun _ => rfl }
        noFeed := ?_
        text_eq := by rw [hLine]; exact hText }
    intro l hl
    rw [hLine] at hl
    have hFeed : ∀ m ∈ firstLine (':' :: x) :: rest, '\n' ∉ m := by
      intro m hm
      rw [← hLines] at hm
      exact newline_not_mem_of_mem_lines hm
    rcases List.mem_cons.1 hl with rfl | hl
    · rw [List.mem_append, not_or]
      exact ⟨k.newline_not_mem_name, hFeed _ (by simp)⟩
    · exact hFeed l (by simp [hl])
  · have hColon := Header.separated_of_colon (b := []) rfl (firstLine x)
    rw [List.nil_append] at hColon
    rw [hColon]

/-! ### One fix at a time -/

theorem addColon (h : Begins k colon t) : Begins k true (mapFirstLine Fix.addColon t) := by
  obtain ⟨o, rest, hOpens, hType, -⟩ := h
  refine ⟨_, rest, hOpens.addColon, hType, ?_⟩
  have hColon := Header.separated_of_colon (b := []) rfl (' ' :: trim o.rest)
  rw [List.nil_append] at hColon
  rw [hColon]

theorem chopPeriod (h : Begins k colon t) :
    Begins k colon (mapFirstLine Fix.chopPeriod t) := by
  obtain ⟨o, rest, hOpens, hType, hColon⟩ := h
  by_cases hPeriod : (trimEnd o.toText).getLast? = some '.'
  · have hLast := hOpens.getLast?_rest hPeriod
    obtain ⟨u, hSubject⟩ := Header.exists_subject_of_getLast? hLast
    have hDrop := Header.separated_dropLast (Prod.ext rfl hSubject)
    refine ⟨_, rest, hOpens.chopPeriod hLast, hType, ?_⟩
    rw [hDrop]
    exact hColon
  · have hSame : Fix.chopPeriod o.toText = o.toText := by
      rw [Fix.chopPeriod, if_neg hPeriod]
    rw [hOpens.mapFirstLine, hSame, ← hOpens.text_eq]
    exact ⟨o, rest, hOpens, hType, hColon⟩

theorem separateBody (h : Begins k colon t) : Begins k colon (Fix.separateBody t) := by
  obtain ⟨o, rest, hOpens, hType, hColon⟩ := h
  cases rest with
  | nil =>
      have hSame : Fix.separateBody t = t := by rw [Fix.separateBody, hOpens.lines_eq]
      rw [hSame]
      exact ⟨o, [], hOpens, hType, hColon⟩
  | cons l ls =>
      cases hInk : blank l with
      | false => exact ⟨o, _, hOpens.separateBody hInk, hType, hColon⟩
      | true =>
          have hSame : Fix.separateBody t = t := by
            rw [Fix.separateBody, hOpens.lines_eq]
            simp [hInk]
          rw [hSame]
          exact ⟨o, l :: ls, hOpens, hType, hColon⟩

end Begins

/-! ## The fix for the type -/

/-- The type has nothing to be fixed exactly when it is known. -/
theorem Rule.check_knownType_eq_nil_iff (m : Message) :
    Rule.check .knownType m = [] ↔ ∃ k : CommitType, m.parts.type = some k.name := by
  rw [← content_true_iff, content_knownType]

/-- Without a type, what stands before the first colon gives way; a text without a
colon is kept behind a new one. -/
theorem putType_of_untyped {t : Text} (k : CommitType) (hInk : blank t = false)
    (hType : (Message.reading t).parts.type = none) :
    Fix.putType k t =
      if t.dropWhile (· != ':') = [] then k.name ++ ':' :: ' ' :: trim t
      else k.name ++ t.dropWhile (· != ':') := by
  rw [Fix.putType, Message.parse?_eq_reading hInk]
  simp only [hType, Option.isNone_none, if_true]
  cases t.dropWhile (· != ':') with
  | nil => rfl
  | cons c cs => rfl

/-- So the new type stands before a colon. -/
theorem putType_of_type_eq_none {t : Text} (hInk : blank t = false)
    (hType : (Message.reading t).parts.type = none) (k : CommitType) :
    ∃ x, Fix.putType k t = k.name ++ ':' :: x := by
  rw [putType_of_untyped k hInk hType]
  cases hDrop : t.dropWhile (· != ':') with
  | nil => exact ⟨' ' :: trim t, rfl⟩
  | cons c cs =>
      have hStop := List.head?_dropWhile_not (· != ':') t
      have hColon : c = ':' := by simpa [hDrop] using hStop
      exact ⟨cs, by rw [hColon, if_neg (by simp)]⟩

theorem requiresChoice_of_mem {issues : List Issue} {i : Issue} (hMem : i ∈ issues)
    (hFix : i.fix = some (.choose .type)) : requiresChoice issues = true := by
  rw [requiresChoice, List.any_eq_true]
  exact ⟨i, hMem, by rw [Issue.choiceKind?, hFix]; rfl⟩

/-- A missing type is left to the user. -/
theorem Rule.check_knownType_of_missing {m : Message} (hType : m.parts.type = none) :
    Rule.check .knownType m =
      [⟨.knownType, .error, "Missing commit type. Allowed: ".toList ++ CommitType.listing,
        some (.choose .type)⟩] := by
  rw [Rule.check, Rule.checkKnownType, hType]

theorem repairAll_knownType_of_missing {m : Message} (hType : m.parts.type = none) (c : Choices)
    (t : Text) :
    repairAll c t (Rule.check .knownType m) = c.type.elim t fun k => Fix.putType k t := by
  rw [Rule.check_knownType_of_missing hType]
  cases hChoice : c.type <;> simp [repairAll, Issue.repair, Fix.apply, Choices.get, hChoice]

/-- A type that is not known yet becomes the user's decision or is written in
lower case. -/
theorem repairedType_of_mem {m : Message} {i : Issue} {c : Choices} {s : Text}
    (hMem : i ∈ Rule.checkKnownType m) (hType : m.parts.type = some s)
    (hChoice : i.fix = some (.choose .type) → c.type.isSome = true) :
    ∃ k : CommitType, Header.repairedType c s = k.name := by
  rcases Rule.of_mem_checkKnownType hMem with ⟨hFix, hCase⟩ | ⟨s', k, hType', -, hCase, -⟩
  · obtain ⟨k, hk⟩ := Option.isSome_iff_exists.1 (hChoice hFix)
    refine ⟨k, ?_⟩
    rw [Header.repairedType, hCase s (by simp [hType]), hk]
    rfl
  · have hEq : s' = s := by simpa [hType] using hType'.symm
    subst hEq
    refine ⟨k, ?_⟩
    rw [Header.repairedType, hCase]
    exact CommitType.ofName?_eq_some_iff.1 hCase

variable {t : Text} {c : Choices}

/-- After the fix for the type the text begins with a known type, and if R4 finds
no fault with the header, with a colon as well. -/
theorem exists_begins_typed (hInk : blank t = false)
    (hChoice : requiresChoice (lint t) = true → c.type.isSome = true) :
    ∃ k colon,
      Begins k colon (repairAll c (trim t) (Rule.check .knownType (Message.reading t))) ∧
        ((Message.reading t).lacksColon = false → colon = true) := by
  have hDecided : ∀ i ∈ Rule.check .knownType (Message.reading t),
      i.fix = some (.choose .type) → c.type.isSome = true := by
    intro i hi hFix
    apply hChoice
    rw [lint_eq_issues hInk]
    exact requiresChoice_of_mem (Message.mem_issues.2 ⟨_, hi⟩) hFix
  cases hType : (Message.reading t).parts.type with
  | none =>
      have hCheck := Rule.check_knownType_of_missing hType
      obtain ⟨k, hk⟩ := Option.isSome_iff_exists.1
        (hDecided _ (hCheck ▸ List.mem_singleton_self _) rfl)
      have hTrim : blank (trim t) = false := by rw [blank_trim]; exact hInk
      have hNone : (Message.reading (trim t)).parts.type = none := by
        rw [Message.type_reading, trim_trim, ← Message.type_reading]
        exact hType
      obtain ⟨x, hx⟩ := putType_of_type_eq_none hTrim hNone k
      refine ⟨k, true, ?_, fun _ => rfl⟩
      rw [repairAll_knownType_of_missing hType, hk, Option.elim_some, hx]
      exact Begins.of_colon k x
  | some s =>
      obtain ⟨o, hOpens, hParse⟩ := Follows.empty (c := c) (by rw [hType]; rfl)
      obtain ⟨hOld, -, hSeparated⟩ := Follows.parts_eq hOpens.sealed hParse
      have hOwn : (Message.reading t).parts.type = some o.type := by
        simpa [Header.edited, selects] using hOld
      have hColon : (Header.separated o.rest).1 = (Message.reading t).parts.hasColon := by
        rw [hSeparated]
        simp [Header.edited, selects]
      have hLacks : (Message.reading t).lacksColon = false →
          (Message.reading t).parts.hasColon = true := by
        simp [Message.lacksColon, hType]
      rcases Rule.check_eq_nil_or_singleton (r := .knownType) (by decide) (Message.reading t) with
        hNil | ⟨i, hOne, -⟩
      · obtain ⟨k, hk⟩ := (Rule.check_knownType_eq_nil_iff _).1 hNil
        rw [hOwn, Option.some_inj] at hk
        rw [hNil]
        exact ⟨k, _, ⟨o, _, hOpens, hk, hColon⟩, hLacks⟩
      · have hMem : i ∈ Rule.checkKnownType (Message.reading t) := by
          show i ∈ Rule.check .knownType (Message.reading t)
          rw [hOne]
          exact List.mem_singleton_self i
        obtain ⟨k, hk⟩ := repairedType_of_mem hMem hOwn (hDecided i hMem)
        rw [hOne]
        exact ⟨k, _, ⟨_, _, Follows.opens_repairedType hOpens hOwn hMem, hk, hColon⟩, hLacks⟩

/-! ## The pass up to the long lines -/

/-- The text after all repairs but those of long lines. -/
def unwrapped (c : Choices) (t : Text) : Text :=
  repairAll c (trim t) ((lint t).filter fun i => i.rule != .lineLength)

/-- The rest of the pass is to wrap the long lines. -/
theorem fixAll_eq_wrapAll (c : Choices) (hInk : blank t = false) :
    fixAll c t = wrapAll (unwrapped c t) (Message.reading t).long := by
  rw [fixAll, Message.normalize, lint_trim, unwrapped, lint_eq_issues hInk,
    Message.long, repairAll_issues, repairAll_before_wrapping]

/-- **Before lines are wrapped** the text begins with a known type and a colon,
once every decision has been made. -/
theorem exists_begins_unwrapped (hInk : blank t = false)
    (hChoice : requiresChoice (lint t) = true → c.type.isSome = true) :
    ∃ k, Begins k true (unwrapped c t) := by
  obtain ⟨k, colon, hTyped, hHas⟩ := exists_begins_typed hInk hChoice
  refine ⟨k, ?_⟩
  have hSeparated : Begins k true
      (if (Message.reading t).lacksColon then
        mapFirstLine Fix.addColon (repairAll c (trim t) (Rule.check .knownType (Message.reading t)))
      else repairAll c (trim t) (Rule.check .knownType (Message.reading t))) := by
    cases hLacks : (Message.reading t).lacksColon with
    | true => exact hTyped.addColon
    | false =>
        rw [hHas hLacks] at hTyped
        exact hTyped
  rw [unwrapped, lint_eq_issues hInk, repairAll_before_wrapping]
  cases (Message.reading t).endsInPeriod with
  | true =>
      cases Message.crowdsHeader (Message.reading t).lines with
      | true => exact hSeparated.chopPeriod.separateBody
      | false => exact hSeparated.chopPeriod
  | false =>
      cases Message.crowdsHeader (Message.reading t).lines with
      | true => exact hSeparated.separateBody
      | false => exact hSeparated

/-! ## The whole pass -/

/-- Wrapping and trimming keep the type of the first line. -/
theorem type_reading_wrapAll {x : Text} (hHead : ∃ d ∈ (firstLine x).head?, isBlank d = false)
    (ks : List Nat) :
    (Message.reading (wrapAll x ks)).parts.type = (Header.parse (firstLine x)).type := by
  have hWrap := KeepsHead.wrapAll hHead ks
  have hKeeps := hWrap.trans (KeepsHead.trim hWrap.1)
  rw [Message.parts_reading, Header.type_eq_of_words hHead hKeeps.1 hKeeps.2]

/-- So the type that is known before the wraps is the type of the message after
the pass. -/
theorem exists_type_fixAll (hInk : blank t = false)
    (hChoice : requiresChoice (lint t) = true → c.type.isSome = true) :
    blank (fixAll c t) = false ∧
      ∃ k : CommitType, (Message.reading (fixAll c t)).parts.type = some k.name := by
  obtain ⟨k, hBegins⟩ := exists_begins_unwrapped hInk hChoice
  have hHead := hBegins.head?_firstLine
  obtain ⟨d, hd, hdInk⟩ := (KeepsHead.wrapAll hHead (Message.reading t).long).1
  have hMem : d ∈ wrapAll (unwrapped c t) (Message.reading t).long :=
    (List.takeWhile_prefix _).subset (List.mem_of_mem_head? hd)
  rw [fixAll_eq_wrapAll c hInk, type_reading_wrapAll hHead]
  exact ⟨not_blank_of_mem hMem hdInk, k, hBegins.parse_firstLine.1⟩

namespace Session

/-- Once all decisions have been made, a decision for the type has been, if one
is needed. -/
theorem type_isSome_of_hasAllChoices {s : Session} (hChoices : s.hasAllChoices = true)
    (hNeeds : requiresChoice s.issues = true) : s.choices.type.isSome = true := by
  have hNe := (needsChoice_iff s).1 hNeeds
  obtain ⟨kind, hKind⟩ := List.exists_mem_of_ne_nil _ hNe
  have hMade := List.all_eq_true.1 hChoices kind hKind
  cases kind
  exact hMade

/--
**A decision for the type settles the type**: when actions have led to a text
that is not blank, and every decision that its issues wait for has been made,
repairing everything gives a text that is not blank and has no issue about its
type, whatever else is repaired with it.
-/
theorem applyAll_settles_type (actions : List Action)
    (hInk : blank (run actions).current = false)
    (hChoices : (run actions).hasAllChoices = true) :
    blank (run actions).applyAll.current = false ∧
      ∀ i ∈ (run actions).applyAll.issues, i.rule ≠ .knownType := by
  have hAccount := account_run actions
  have hIssues : (run actions).issues = lint (run actions).current := by
    have hLinted := hAccount.linted
    split at hLinted
    · exact hLinted
    · rw [hLinted.1] at hInk
      contradiction
  have hFixed : (run actions).applyAll.current =
      trim (fixAll (run actions).choices (run actions).current) := by
    rw [current_applyAll, hAccount.fixed_applyAll]
  obtain ⟨hAfter, k, hType⟩ := exists_type_fixAll hInk fun hNeeds =>
    type_isSome_of_hasAllChoices hChoices (hIssues ▸ hNeeds)
  constructor
  · rw [hFixed, blank_trim]
    exact hAfter
  · intro i hi hRule
    have hLint : (run actions).applyAll.issues =
        lint (fixAll (run actions).choices (run actions).current) := by
      rw [issues_applyAll, hFixed, lint_trim]
    rw [hLint, lint_eq_issues hAfter] at hi
    have hCheck := Message.mem_check_of_mem_issues hi
    have hNone : Rule.check .knownType
        (Message.reading (fixAll (run actions).choices (run actions).current)) = [] :=
      (Rule.check_knownType_eq_nil_iff _).2 ⟨k, hType⟩
    rw [hRule, hNone] at hCheck
    exact List.not_mem_nil hCheck

/-- An unknown type in front of a header that is wrapped in the same pass. -/
theorem applyAll_settles_type_of_wrapped_header :
    let actions := [.update (Wrap.joined ("foo:".toList :: List.replicate 20 "word".toList)),
      .choose "type".toList "feat".toList]
    (run actions).needsChoice = true ∧ (run actions).hasAllChoices = true ∧
      (blank (run actions).applyAll.current = false ∧
        ∀ i ∈ (run actions).applyAll.issues, i.rule ≠ .knownType) := by
  intro actions
  have hInk : blank (run actions).current = false := by decide +kernel
  have hChoices : (run actions).hasAllChoices = true := by decide +kernel
  exact ⟨by decide +kernel, hChoices, applyAll_settles_type actions hInk hChoices⟩

end Session

end CommitLint
