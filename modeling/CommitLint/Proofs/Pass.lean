import CommitLint.Proofs.HeaderEdits
import CommitLint.Proofs.Wrapping

/-!
# One pass of repairs

The issues of a message come in the order of the rules, so a pass applies the
fix for the type first, then those for the colon, the final period and the
crowded header, each at most once, and then wraps the long lines.
`repairAll_issues` takes a pass apart in this way for any text, message and
decisions.

Without a decision the first four fixes work on the first line and the gap
below it.  `Message.mended` and `Message.below` are what they make of the two,
and `repairAll_undecided` states a pass in these terms: what is left is to wrap
the lines of `Message.long`, at indices that were counted before.
-/

namespace CommitLint

open Text

/-! ## A list of issues in parts -/

theorem repairAll_append (c : Choices) (t : Text) (first last : List Issue) :
    repairAll c t (first ++ last) = repairAll c (repairAll c t first) last := by
  simp [repairAll]

theorem repairAll_of_fix_eq_none {c : Choices} {t : Text} {issues : List Issue}
    (hNone : ∀ i ∈ issues, i.fix = none) : repairAll c t issues = t := by
  induction issues generalizing t with
  | nil => rfl
  | cons i is ih =>
      have hKeep : i.repair c t = t := by simp [Issue.repair, hNone i (by simp)]
      rw [show repairAll c t (i :: is) = repairAll c (i.repair c t) is from rfl, hKeep]
      exact ih fun j hj => hNone j (by simp [hj])

/-! ## What each rule asks for -/

namespace Message

variable (m : Message)

/-- The type, if nothing but its case keeps it from being known. -/
def miscased? : Option Text := m.parts.type.filter CommitType.miscased

/-- R4 finds fault with the header. -/
def lacksColon : Bool := m.parts.type.isSome && !m.parts.hasColon

/-- R6 finds fault with the header. -/
def endsInPeriod : Bool := (m.parts.subject.getD []).getLast? == some '.'

variable {m}

theorem miscased?_eq_some_iff {found : Text} :
    m.miscased? = some found ↔ m.parts.type = some found ∧
      CommitType.ofName? found = none ∧ ∃ k : CommitType, lower found = k.name := by
  rw [miscased?, Option.filter_eq_some_iff, CommitType.miscased, Bool.and_eq_true,
    Option.isNone_iff_eq_none, Option.isSome_iff_exists]
  simp only [CommitType.ofAnyCase?, CommitType.ofName?_eq_some_iff]

/-- An issue with a fix tells what is wrong with the message. -/
theorem fix_cases {i : Issue} {f : Fix} (hMem : i ∈ m.issues) (hFix : i.fix = some f) :
    f = .choose .type ∨ (∃ found, f = .lowercaseType found ∧ m.miscased? = some found) ∨
      (f = .insertColon ∧ m.lacksColon = true) ∨ (f = .dropPeriod ∧ m.endsInPeriod = true) ∨
      (f = .insertBlankLine ∧ crowdsHeader m.lines = true) ∨
      ∃ k l, f = .wrapLine k ∧ m.lines[k]? = some l ∧ Rule.lineWarn < l.length := by
  have hCheck := mem_check_of_mem_issues hMem
  cases hOffers : i.rule.offersFix with
  | false =>
      rw [Rule.fix_eq_none_of_mem_check hOffers hCheck] at hFix
      contradiction
  | true =>
      cases hRule : i.rule with
      | headerPresent | scopeFormat | subjectPresent | headerLength =>
          rw [hRule] at hOffers
          contradiction
      | knownType =>
          rw [hRule] at hCheck
          rcases Rule.of_mem_checkKnownType hCheck with ⟨hOwn, -⟩ | ⟨t, k, ht, hName, hCase, hOwn⟩
          · rw [hFix, Option.some_inj] at hOwn
            exact Or.inl hOwn
          · rw [hFix, Option.some_inj] at hOwn
            right; left
            refine ⟨t, hOwn, miscased?_eq_some_iff.2 ⟨ht, hName, k, ?_⟩⟩
            exact CommitType.ofName?_eq_some_iff.1 hCase
      | colonPresent =>
          rw [hRule] at hCheck
          obtain ⟨hOwn, hType, hColon⟩ := Rule.of_mem_checkColonPresent hCheck
          rw [hFix, Option.some_inj] at hOwn
          right; right; left
          exact ⟨hOwn, by simp [lacksColon, hType, hColon]⟩
      | noFinalPeriod =>
          rw [hRule] at hCheck
          obtain ⟨hOwn, hLast⟩ := Rule.of_mem_checkNoFinalPeriod hCheck
          rw [hFix, Option.some_inj] at hOwn
          right; right; right; left
          exact ⟨hOwn, by simp [endsInPeriod, hLast]⟩
      | blankLine =>
          rw [hRule] at hCheck
          obtain ⟨hOwn, hCrowd⟩ := Rule.of_mem_checkBlankLine hCheck
          rw [hFix, Option.some_inj] at hOwn
          right; right; right; right; left
          exact ⟨hOwn, hCrowd⟩
      | lineLength =>
          rw [hRule] at hCheck
          obtain ⟨k, l, hLine, hLong, hOwn⟩ := Rule.of_mem_checkLineLength hCheck
          rw [hFix, Option.some_inj] at hOwn
          right; right; right; right; right
          exact ⟨k, l, hOwn, hLine, hLong⟩

end Message

/-- The indices of the lines that are too long, counted from a number on. -/
def longFrom : Nat → List Text → List Nat
  | _, [] => []
  | n, l :: ls =>
    if Rule.lineWarn < l.length then n :: longFrom (n + 1) ls else longFrom (n + 1) ls

theorem mem_longFrom {n k : Nat} {ls : List Text} {l : Text} (hLine : ls[k]? = some l)
    (hLong : Rule.lineWarn < l.length) : n + k ∈ longFrom n ls := by
  induction ls generalizing n k with
  | nil => simp at hLine
  | cons m ms ih =>
      rw [longFrom]
      cases k with
      | zero =>
          have hEq : m = l := by simpa using hLine
          rw [hEq, if_pos hLong]
          exact List.mem_cons_self
      | succ k =>
          have hRest := ih (n := n + 1) (k := k) (by simpa using hLine)
          rw [Nat.add_right_comm, Nat.add_assoc] at hRest
          split
          · exact List.mem_cons_of_mem n hRest
          · exact hRest

theorem le_of_mem_longFrom {n k : Nat} {ls : List Text} (hMem : k ∈ longFrom n ls) : n ≤ k := by
  induction ls generalizing n with
  | nil => simp [longFrom] at hMem
  | cons l ls ih =>
      rw [longFrom] at hMem
      by_cases hLong : Rule.lineWarn < l.length
      · rw [if_pos hLong, List.mem_cons] at hMem
        rcases hMem with rfl | hMem
        · exact Nat.le_refl _
        · have hLater := ih hMem
          omega
      · rw [if_neg hLong] at hMem
        have hLater := ih hMem
        omega

/-- The indices are counted from top to bottom. -/
theorem pairwise_longFrom (n : Nat) (ls : List Text) : (longFrom n ls).Pairwise (· < ·) := by
  induction ls generalizing n with
  | nil => exact List.Pairwise.nil
  | cons l ls ih =>
      rw [longFrom]
      by_cases hLong : Rule.lineWarn < l.length
      · rw [if_pos hLong, List.pairwise_cons]
        exact ⟨fun k hk => le_of_mem_longFrom hk, ih (n + 1)⟩
      · rw [if_neg hLong]
        exact ih (n + 1)

theorem repairAll_checkKnownType (m : Message) (t : Text) :
    repairAll .undecided t (Rule.check .knownType m) =
      match m.miscased? with
      | none => t
      | some found => Fix.lowercaseHead found t := by
  show repairAll .undecided t (Rule.checkKnownType m) = _
  unfold Rule.checkKnownType Message.miscased?
  cases m.parts.type with
  | none => rfl
  | some s =>
      dsimp only
      cases hName : (CommitType.ofName? s).isSome with
      | true =>
          rw [if_pos rfl, Option.filter_some, CommitType.miscased, ← Option.not_isSome, hName]
          rfl
      | false =>
          rw [if_neg (by simp), Option.filter_some, CommitType.miscased, ← Option.not_isSome,
            hName]
          cases (CommitType.ofAnyCase? s).isSome with
          | true => rfl
          | false => rfl

theorem repairAll_checkColonPresent (c : Choices) (m : Message) (t : Text) :
    repairAll c t (Rule.check .colonPresent m) =
      if m.lacksColon then mapFirstLine Fix.addColon t else t := by
  show repairAll c t (Rule.checkColonPresent m) = _
  unfold Rule.checkColonPresent Message.lacksColon
  split <;> rfl

theorem repairAll_checkNoFinalPeriod (c : Choices) (m : Message) (t : Text) :
    repairAll c t (Rule.check .noFinalPeriod m) =
      if m.endsInPeriod then mapFirstLine Fix.chopPeriod t else t := by
  show repairAll c t (Rule.checkNoFinalPeriod m) = _
  unfold Rule.checkNoFinalPeriod Message.endsInPeriod
  split <;> rfl

theorem repairAll_checkBlankLine (c : Choices) (m : Message) (t : Text) :
    repairAll c t (Rule.check .blankLine m) =
      if Message.crowdsHeader m.lines then Fix.separateBody t else t := by
  show repairAll c t (Rule.checkBlankLine m) = _
  unfold Rule.checkBlankLine
  split <;> rfl

theorem repairAll_longLines (c : Choices) (t : Text) (n : Nat) (ls : List Text) :
    repairAll c t (Rule.longLines n ls) = wrapAll t (longFrom n ls) := by
  induction ls generalizing n t with
  | nil => rfl
  | cons l ls ih =>
      rw [Rule.longLines, longFrom, repairAll_append]
      cases hLong : Rule.longLine? n l with
      | none =>
          have hShort : ¬ Rule.lineWarn < l.length := by
            rw [Nat.not_lt]
            exact (Rule.longLine?_eq_none_iff n l).1 hLong
          rw [if_neg hShort, ← ih]
          rfl
      | some i =>
          have hExceeds : Rule.lineWarn < l.length := by
            apply Nat.lt_of_not_le
            intro hShort
            rw [(Rule.longLine?_eq_none_iff n l).2 hShort] at hLong
            contradiction
          have hFix := (Rule.of_mem_longLine? hLong).2
          have hOne : repairAll c t [i] = Fix.wrapLineAt n t := by
            simp [repairAll, Issue.repair, hFix, Fix.apply]
          rw [if_pos hExceeds, Option.toList_some, hOne, ih]
          rfl

/-- A pass up to the long lines: the type, the colon, the final period and the
gap below the header. -/
theorem repairAll_before_wrapping (c : Choices) (m : Message) (t : Text) :
    let typed := repairAll c t (Rule.check .knownType m)
    let separated := if m.lacksColon then mapFirstLine Fix.addColon typed else typed
    let mended := if m.endsInPeriod then mapFirstLine Fix.chopPeriod separated else separated
    repairAll c t (m.issues.filter fun i => i.rule != .lineLength) =
      if Message.crowdsHeader m.lines then Fix.separateBody mended else mended := by
  have hKeep : ∀ r : Rule, r.offersFix = false → ∀ s, repairAll c s (r.check m) = s :=
    fun r hr s => repairAll_of_fix_eq_none fun i hi => Rule.fix_eq_none_of_mem_check hr hi
  rw [Message.filter_issues, Rule.all]
  simp only [List.dropLast, List.flatMap_cons, List.flatMap_nil, List.append_nil,
    repairAll_append]
  rw [hKeep .headerPresent rfl, hKeep .scopeFormat rfl, hKeep .subjectPresent rfl,
    hKeep .headerLength rfl, repairAll_checkColonPresent, repairAll_checkNoFinalPeriod]
  exact repairAll_checkBlankLine c m _

/-- **A pass in parts**: the type, the colon, the final period, the gap below
the header, and then the long lines. -/
theorem repairAll_issues (c : Choices) (m : Message) (t : Text) :
    let typed := repairAll c t (Rule.check .knownType m)
    let separated := if m.lacksColon then mapFirstLine Fix.addColon typed else typed
    let mended := if m.endsInPeriod then mapFirstLine Fix.chopPeriod separated else separated
    let spaced := if Message.crowdsHeader m.lines then Fix.separateBody mended else mended
    repairAll c t m.issues = wrapAll spaced (longFrom 0 m.lines) := by
  dsimp only
  rw [m.issues_eq_append, repairAll_append, repairAll_before_wrapping]
  exact repairAll_longLines c _ 0 m.lines

/-! ## Fixes of the first line -/

theorem mapFirstLine_unlines (f : Text → Text) {l : Text} {rest : List Text}
    (hFeed : ∀ k ∈ l :: rest, '\n' ∉ k) :
    mapFirstLine f (unlines (l :: rest)) = unlines (f l :: rest) := by
  rw [mapFirstLine, lines_unlines (by simp) hFeed]

theorem ite_mapFirstLine (b : Bool) (f : Text → Text) {l : Text} {rest : List Text}
    (hFeed : ∀ k ∈ l :: rest, '\n' ∉ k) :
    (if b then mapFirstLine f (unlines (l :: rest)) else unlines (l :: rest)) =
      unlines ((if b then f l else l) :: rest) := by
  rw [mapFirstLine_unlines f hFeed]
  cases b <;> rfl

theorem lowercaseHead_append (found x : Text) :
    Fix.lowercaseHead found (found ++ x) = lower found ++ x := by
  rw [Fix.lowercaseHead, if_pos (beginsCaseless_append _ _), List.drop_left]

/-- A colon and a space are all that comes in with a colon. -/
theorem Fix.not_mem_addColon {c : Char} (hColon : c ≠ ':') (hSpace : c ≠ ' ') {l : Text}
    (h : c ∉ l) : c ∉ addColon l := by
  cases hOpening : Header.opening? l with
  | none => simpa [addColon, hOpening] using h
  | some o =>
      rw [Header.eq_of_opening? hOpening] at h
      simp only [List.mem_append, not_or] at h
      have hTrim : c ∉ trim o.rest := fun hMem => h.2 (trim_subset _ hMem)
      simp only [addColon, hOpening, List.mem_append, List.mem_cons, not_or]
      exact ⟨h.1, hColon, hSpace, hTrim⟩

theorem chopPeriod_isPrefix (l : Text) : Fix.chopPeriod l <+: l := by
  unfold Fix.chopPeriod
  dsimp only
  split
  · exact (List.dropLast_prefix _).trans (trimEnd_isPrefix l)
  · exact List.prefix_refl l

namespace Message

variable (m : Message)

/-- The header with its type in lower case, if that is asked for. -/
def typed : Text :=
  match m.miscased? with
  | none => m.header
  | some found => Fix.lowercaseHead found m.header

/-- The header with a colon as well, if that is asked for. -/
def separated : Text := if m.lacksColon then Fix.addColon m.typed else m.typed

/-- The header after all fixes that work on it. -/
def mended : Text := if m.endsInPeriod then Fix.chopPeriod m.separated else m.separated

/-- The lines below the header, with an empty one before them if the header is
crowded. -/
def below : List Text := if crowdsHeader m.lines then [] :: m.lines.tail else m.lines.tail

/-- The indices of the lines to be wrapped. -/
def long : List Nat := longFrom 0 m.lines

/-- A header whose type is only miscased opens with that type. -/
theorem exists_opening_of_miscased {t found : Text} (h : (reading t).miscased? = some found) :
    ∃ o k, Header.opening? (firstLine (trim t)) = some o ∧ o.type = found ∧
      lower found = CommitType.name k ∧
      (reading t).typed = lower found ++ (Header.bracketed o.scope ++ o.rest) := by
  obtain ⟨hType, -, k, hLower⟩ := miscased?_eq_some_iff.1 h
  rw [type_reading, Option.map_eq_some_iff] at hType
  obtain ⟨o, hOpening, rfl⟩ := hType
  refine ⟨o, k, hOpening, rfl, hLower, ?_⟩
  have hHeader : (reading t).header = o.type ++ (Header.bracketed o.scope ++ o.rest) := by
    rw [← List.append_assoc]
    exact Header.eq_of_opening? hOpening
  simp only [typed, h]
  rw [hHeader, lowercaseHead_append]

theorem newline_not_mem_header (t : Text) : '\n' ∉ (reading t).header :=
  newline_not_mem_line List.mem_cons_self

/-- Another header without a line feed above the same lines. -/
theorem newline_not_mem_cons {t header : Text} (hHeader : '\n' ∉ header) :
    ∀ l ∈ header :: (reading t).lines.tail, '\n' ∉ l := by
  intro l hl
  rcases List.mem_cons.1 hl with rfl | hl
  · exact hHeader
  · exact newline_not_mem_line (List.mem_cons_of_mem _ hl)

theorem newline_not_mem_typed (t : Text) : '\n' ∉ (reading t).typed := by
  cases hCase : (reading t).miscased? with
  | none => simpa [typed, hCase] using newline_not_mem_header t
  | some found =>
      obtain ⟨o, k, hOpening, -, hLower, hTyped⟩ := exists_opening_of_miscased hCase
      have hOld := newline_not_mem_header t
      rw [show (reading t).header = firstLine (trim t) from rfl,
        Header.eq_of_opening? hOpening, List.append_assoc, List.mem_append, not_or] at hOld
      rw [hTyped, hLower, List.mem_append, not_or]
      refine ⟨?_, hOld.2⟩
      intro hMem
      exact absurd (CommitType.isLetter_of_mem_name hMem) (by decide)

theorem newline_not_mem_separated (t : Text) : '\n' ∉ (reading t).separated := by
  rw [separated]
  split
  · exact Fix.not_mem_addColon (by decide) (by decide) (newline_not_mem_typed t)
  · exact newline_not_mem_typed t

theorem newline_not_mem_mended (t : Text) : '\n' ∉ (reading t).mended := by
  rw [mended]
  split
  · exact fun hMem => newline_not_mem_separated t ((chopPeriod_isPrefix _).subset hMem)
  · exact newline_not_mem_separated t

theorem newline_not_mem_below {t l : Text} (hl : l ∈ (reading t).below) : '\n' ∉ l := by
  have hTail : ∀ k ∈ (reading t).lines.tail, '\n' ∉ k := fun k hk =>
    newline_not_mem_line (List.mem_cons_of_mem _ hk)
  rw [below] at hl
  split at hl
  · rcases List.mem_cons.1 hl with rfl | hl
    · simp
    · exact hTail l hl
  · exact hTail l hl

end Message

/-! ## The header as an opening -/

namespace Message

/-- An opening after the fixes for the type and the colon. -/
def reopened (m : Message) (o : Header.Opening) : Header.Opening where
  type := if m.miscased?.isSome then lower o.type else o.type
  scope := o.scope
  rest := if m.lacksColon then ':' :: ' ' :: trim o.rest else o.rest

theorem opens_header {t : Text} {o : Header.Opening}
    (h : Header.opening? (firstLine (trim t)) = some o) : Opens o [] (reading t).header := by
  obtain ⟨hSealed, hHeader⟩ := Header.opening?_eq_some_iff.1 h
  refine
    { sealed := hSealed
      noFeed := ?_
      text_eq := by rw [unlines_singleton]; exact hHeader }
  intro l hl
  rw [List.mem_singleton.1 hl, ← hHeader]
  exact newline_not_mem_header t

/-- A header with a type opens in the same way after the fixes for the type and
the colon, with these parts changed. -/
theorem opens_separated {t : Text} {o : Header.Opening}
    (h : Header.opening? (firstLine (trim t)) = some o) :
    Opens ((reading t).reopened o) [] (reading t).separated := by
  have hType : (reading t).parts.type = some o.type := by simp [type_reading, h]
  have hTyped : Opens
      { o with type := if (reading t).miscased?.isSome then lower o.type else o.type } []
      (reading t).typed := by
    cases hCase : (reading t).miscased? with
    | none => simpa [typed, hCase] using opens_header h
    | some found =>
        obtain ⟨hFound, -, k, hLower⟩ := miscased?_eq_some_iff.1 hCase
        rw [hType, Option.some_inj] at hFound
        subst hFound
        have hNew := (opens_header h).lowercaseHead hLower
        simpa [typed, hCase, hLower] using hNew
  have hFeed : ∀ l ∈ [(reading t).typed], '\n' ∉ l := by
    intro l hl
    rw [List.mem_singleton.1 hl]
    exact newline_not_mem_typed t
  rw [separated, reopened]
  cases (reading t).lacksColon with
  | false => exact hTyped
  | true =>
      have hNew := hTyped.addColon
      have hLine := mapFirstLine_unlines Fix.addColon hFeed
      rw [unlines_singleton, unlines_singleton] at hLine
      rw [hLine] at hNew
      exact hNew

/-- A header without a type keeps as it is until its period is looked at. -/
theorem separated_of_no_opening {t : Text}
    (h : Header.opening? (firstLine (trim t)) = none) :
    (reading t).separated = (reading t).header := by
  have hType : (reading t).parts.type = none := by simp [type_reading, h]
  simp [separated, lacksColon, typed, miscased?, hType]

/-- What a header without an opening or after it ends with, R6 looks at. -/
theorem getLast?_of_endsInPeriod {t : Text} (hPeriod : (reading t).endsInPeriod = true) :
    (∀ o, Header.opening? (firstLine (trim t)) = some o →
        (trimEnd o.rest).getLast? = some '.') ∧
      (Header.opening? (firstLine (trim t)) = none →
        (trimEnd (firstLine (trim t))).getLast? = some '.') := by
  have hLast : ((reading t).parts.subject.getD []).getLast? = some '.' := by
    simpa [endsInPeriod] using hPeriod
  cases hSubject : (reading t).parts.subject with
  | none => simp [hSubject] at hLast
  | some u =>
      rw [hSubject, Option.getD_some] at hLast
      have hParse : (Header.parse (firstLine (trim t))).subject = some u := hSubject
      constructor
      · intro o hOpening
        rw [Header.parse_of_opening hOpening] at hParse
        rw [Header.getLast?_of_separated (Prod.ext rfl hParse), hLast]
      · intro hOpening
        rw [Header.parse_of_no_opening hOpening] at hParse
        obtain ⟨hTrim, -⟩ := nonempty?_eq_some_iff.1 hParse
        rw [← getLast?_trim, hTrim, hLast]

end Message

/-! ## The whole pass -/

theorem repairAll_typed (t : Text) :
    repairAll .undecided (trim t) (Rule.check .knownType (Message.reading t)) =
      unlines ((Message.reading t).typed :: (Message.reading t).lines.tail) := by
  rw [repairAll_checkKnownType, Message.trim_eq_unlines t]
  cases hCase : (Message.reading t).miscased? with
  | none => simp [Message.typed, hCase]
  | some found =>
      obtain ⟨o, k, hOpening, rfl, -, hNew⟩ := Message.exists_opening_of_miscased hCase
      have hHeader : (Message.reading t).header =
          o.type ++ (Header.bracketed o.scope ++ o.rest) := by
        rw [← List.append_assoc]
        exact Header.eq_of_opening? hOpening
      dsimp only
      rw [hHeader, hNew, unlines_append_head o.type, lowercaseHead_append, ← unlines_append_head]

theorem separateBody_mended (t : Text) :
    (if Message.crowdsHeader (Message.reading t).lines then
        Fix.separateBody (unlines ((Message.reading t).mended :: (Message.reading t).lines.tail))
      else unlines ((Message.reading t).mended :: (Message.reading t).lines.tail)) =
      unlines ((Message.reading t).mended :: (Message.reading t).below) := by
  rw [Message.below]
  split
  · rename_i hCrowd
    have hFeed := Message.newline_not_mem_cons (t := t) (Message.newline_not_mem_mended t)
    obtain ⟨header, l, rest, hLines, hInk⟩ := Message.exists_of_crowdsHeader hCrowd
    rw [hLines, List.tail_cons] at hFeed ⊢
    exact separateBody_unlines hFeed hInk
  · rfl

/-- **A pass without a decision**: the header is mended, the line below it is
emptied, and then the long lines are wrapped. -/
theorem repairAll_undecided (t : Text) :
    repairAll .undecided (trim t) (Message.reading t).issues =
      wrapAll (unlines ((Message.reading t).mended :: (Message.reading t).below))
        (Message.reading t).long := by
  have hPass := repairAll_issues .undecided (Message.reading t) (trim t)
  dsimp only at hPass
  rw [hPass, repairAll_typed,
    ite_mapFirstLine _ _ (Message.newline_not_mem_cons (Message.newline_not_mem_typed t)),
    ← Message.separated,
    ite_mapFirstLine _ _ (Message.newline_not_mem_cons (Message.newline_not_mem_separated t)),
    ← Message.mended, separateBody_mended, Message.long]

end CommitLint
