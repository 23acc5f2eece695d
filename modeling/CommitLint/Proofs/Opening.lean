import CommitLint.Message
import CommitLint.Proofs.Trimming
import Mathlib.Data.List.TakeWhile

/-!
# Taking a header apart and putting it together

`Header.opening?` scans a line from the left.  An opening that comes out of the
scan is `Sealed`: its type holds letters only, its scope no closing
parenthesis, and nothing at the head of the rest could have been taken as well.
Sealed openings and lines with a type determine each other, which is
`opening?_eq_some_iff`; every later fact about headers goes through it and never
looks at the scan again.
-/

namespace CommitLint.Header

open Text

/-! ## Letters and scopes -/

/-- The code points of the letters. -/
theorem isLetter_iff {c : Char} : isLetter c = true ↔
    (65 ≤ c.toNat ∧ c.toNat ≤ 90) ∨ (97 ≤ c.toNat ∧ c.toNat ≤ 122) := by
  have hRanges : isLetter c = (decide ('A'.val ≤ c.val ∧ c.val ≤ 'Z'.val) ||
      ('a'.val ≤ c.val && c.val ≤ 'z'.val)) := rfl
  rw [hRanges]
  simp only [Bool.or_eq_true, Bool.and_eq_true, decide_eq_true_eq, UInt32.le_iff_toNat_le]
  rfl

theorem isBlank_eq_false_of_isLetter {c : Char} (h : isLetter c = true) :
    isBlank c = false := by
  have hRange := isLetter_iff.1 h
  simp only [isBlank, Bool.or_eq_false_iff, Bool.and_eq_false_iff, decide_eq_false_iff_not,
    beq_eq_false_iff_ne, ne_eq]
  omega

/-- A scope needs a parenthesis that opens at once and one that closes. -/
theorem scope?_eq_none_iff (t : Text) :
    scope? t = none ↔ ∀ r, t = '(' :: r → ')' ∉ r := by
  unfold scope?
  split
  · rename_i r
    constructor
    · intro h s hs
      obtain rfl := (List.cons.inj hs).2
      split at h
      · rename_i hDrop
        intro hMem
        have hAll := List.dropWhile_eq_nil_iff.1 hDrop _ hMem
        simp at hAll
      · simp at h
    · intro h
      have hDrop := (takeWhile_bne_append (h r rfl) []).2
      rw [List.append_nil] at hDrop
      rw [hDrop]
      rfl
  · rename_i hHead
    simp only [true_iff]
    intro r hr
    exact absurd hr (hHead r)

theorem takeWhile_closing {s : Text} (hClosed : ')' ∉ s) (rest : Text) :
    (s ++ ')' :: rest).takeWhile (· != ')') = s ∧
      (s ++ ')' :: rest).dropWhile (· != ')') = ')' :: rest := by
  obtain ⟨hTake, hDrop⟩ := takeWhile_bne_append hClosed (')' :: rest)
  rw [hTake, hDrop]
  simp

theorem scope?_bracketed {s : Text} (hClosed : ')' ∉ s) (rest : Text) :
    scope? ('(' :: (s ++ ')' :: rest)) = some (s, rest) := by
  obtain ⟨hTake, hDrop⟩ := takeWhile_closing hClosed rest
  simp [scope?, hTake, hDrop]

theorem not_mem_of_scope? {t s rest : Text} (h : scope? t = some (s, rest)) : ')' ∉ s := by
  unfold scope? at h
  split at h
  · rename_i r
    split at h
    · simp at h
    · rw [Option.some.injEq, Prod.mk.injEq] at h
      intro hMem
      rw [← h.1] at hMem
      have hInside := List.mem_takeWhile_imp hMem
      simp at hInside
  · simp at h

theorem scope?_of_isPrefix {s t : Text} (h : s <+: t) (hNone : scope? t = none) :
    scope? s = none := by
  obtain ⟨r, rfl⟩ := h
  rw [scope?_eq_none_iff] at hNone ⊢
  intro x hx hMem
  exact hNone (x ++ r) (by simp [hx]) (by simp [hMem])

/-! ## Sealed openings -/

/-- The line that an opening was taken off. -/
def Opening.toText (o : Opening) : Text := o.type ++ bracketed o.scope ++ o.rest

/-- Nothing at the head of the rest belongs to the type or the scope, and
neither of them reaches too far. -/
structure Opening.Sealed (o : Opening) : Prop where
  type_ne_nil : o.type ≠ []
  letters : ∀ c ∈ o.type, isLetter c = true
  scope_closed : ∀ s ∈ o.scope, ')' ∉ s
  rest_head : o.scope = none → ∀ c ∈ o.rest.head?, isLetter c = false
  rest_scope : o.scope = none → scope? o.rest = none

theorem takeWhile_letters {t rest : Text} (hLetters : ∀ c ∈ t, isLetter c = true)
    (hHead : ∀ c ∈ rest.head?, isLetter c = false) :
    (t ++ rest).takeWhile isLetter = t ∧ (t ++ rest).dropWhile isLetter = rest := by
  rw [List.takeWhile_append_of_pos hLetters, List.dropWhile_append_of_pos hLetters]
  cases rest with
  | nil => simp
  | cons c cs => simp [hHead c (by simp)]

theorem head?_after_type {o : Opening} (h : o.Sealed) :
    ∀ c ∈ (bracketed o.scope ++ o.rest).head?, isLetter c = false := by
  intro c hc
  cases hScope : o.scope with
  | none =>
      rw [hScope] at hc
      exact h.rest_head hScope c (by simpa [bracketed] using hc)
  | some s =>
      rw [hScope] at hc
      have hParen : c = '(' := by simpa [bracketed] using hc.symm
      rw [hParen]
      decide

theorem Opening.Sealed.takeWhile {o : Opening} (h : o.Sealed) :
    o.toText.takeWhile isLetter = o.type ∧
      o.toText.dropWhile isLetter = bracketed o.scope ++ o.rest := by
  rw [Opening.toText, List.append_assoc]
  exact takeWhile_letters h.letters (head?_after_type h)

/-- A line with a type is the text of one sealed opening, the one that is read
off it. -/
theorem opening?_eq_some_iff {line : Text} {o : Opening} :
    opening? line = some o ↔ o.Sealed ∧ line = o.toText := by
  constructor
  · intro h
    refine ⟨?_, eq_of_opening? h⟩
    unfold opening? at h
    split at h
    · simp at h
    · rename_i c cs hTake
      have hLetters : ∀ d ∈ c :: cs, isLetter d = true := by
        intro d hd
        rw [← hTake] at hd
        exact List.mem_takeWhile_imp hd
      have hHead : ∀ d ∈ (line.dropWhile isLetter).head?, isLetter d = false := by
        intro d hd
        have hStop := List.head?_dropWhile_not isLetter line
        rw [Option.mem_def.1 hd] at hStop
        simpa using hStop
      dsimp only at h
      split at h
      · rename_i s rest hScope
        obtain rfl := Option.some.inj h
        exact
          { type_ne_nil := by simp
            letters := hLetters
            scope_closed := by
              intro r hr
              have hEq : s = r := by simpa using hr
              rw [← hEq]
              exact not_mem_of_scope? hScope
            rest_head := by simp
            rest_scope := by simp }
      · rename_i hScope
        obtain rfl := Option.some.inj h
        exact
          { type_ne_nil := by simp
            letters := hLetters
            scope_closed := by simp
            rest_head := fun _ => hHead
            rest_scope := fun _ => hScope }
  · rintro ⟨hSealed, rfl⟩
    obtain ⟨hTake, hDrop⟩ := hSealed.takeWhile
    unfold opening?
    rw [hTake, hDrop]
    obtain ⟨type, scope, rest⟩ := o
    cases type with
    | nil => exact absurd rfl hSealed.type_ne_nil
    | cons c cs =>
        cases scope with
        | none =>
            have hScope : scope? rest = none := hSealed.rest_scope rfl
            simp [bracketed, hScope]
        | some s =>
            have hScope := scope?_bracketed (hSealed.scope_closed s rfl) rest
            simp [bracketed, hScope]

theorem Opening.Sealed.opening? {o : Opening} (h : o.Sealed) :
    Header.opening? o.toText = some o := opening?_eq_some_iff.2 ⟨h, rfl⟩

theorem opening?_eq_none_iff (line : Text) :
    opening? line = none ↔ ∀ c ∈ line.head?, isLetter c = false := by
  unfold opening?
  cases line with
  | nil => simp
  | cons c cs =>
      cases hc : isLetter c with
      | false => simp [hc]
      | true =>
          simp only [List.takeWhile_cons, hc, if_true]
          constructor
          · intro h
            split at h <;> simp at h
          · intro h
            have := h c (by simp)
            rw [hc] at this
            contradiction

/-! ## The separator -/

theorem separated_of_colon {b : Text} (hBlank : blank b = true) (r : Text) :
    separated (b ++ ':' :: r) = (true, nonempty? (trim r)) := by
  have hStart : trimStart (b ++ ':' :: r) = ':' :: r := by
    rw [trimStart_append_of_blank hBlank]
    exact trimStart_of_head (by simp; decide)
  simp [separated, hStart]

theorem separated_of_no_colon {rest : Text} (h : (trimStart rest).head? ≠ some ':') :
    separated rest = (false, nonempty? (trim rest)) := by
  unfold separated
  split
  · rename_i r hStart
    simp [hStart] at h
  · simp

/-- A separator either has a colon after a gap or has none at all. -/
theorem separated_cases (rest : Text) :
    (∃ b r, blank b = true ∧ rest = b ++ ':' :: r) ∨ (trimStart rest).head? ≠ some ':' := by
  obtain ⟨b, hBlank, hEq⟩ := exists_trimStart rest
  cases hStart : trimStart rest with
  | nil => right; simp
  | cons c cs =>
      by_cases hc : c = ':'
      · left
        exact ⟨b, cs, hBlank, by rw [← hc, ← hStart]; exact hEq⟩
      · right
        simpa using hc

theorem parse_of_opening {line : Text} {o : Opening} (h : opening? line = some o) :
    parse line = ⟨some o.type, o.scope, (separated o.rest).1, (separated o.rest).2⟩ := by
  simp [parse, h]

theorem parse_of_no_opening {line : Text} (h : opening? line = none) :
    parse line = ⟨none, none, false, nonempty? (trim line)⟩ := by
  simp [parse, h]

theorem type_parse (line : Text) : (parse line).type = (opening? line).map Opening.type := by
  cases h : opening? line with
  | none => simp [parse_of_no_opening h]
  | some o => simp [parse_of_opening h]

/-- A subject is trimmed, and there is one only if something is left. -/
theorem subject_eq_some {line u : Text} (h : (parse line).subject = some u) :
    u ≠ [] ∧ trim u = u := by
  have hShape : ∀ r, nonempty? (trim r) = some u → u ≠ [] ∧ trim u = u := by
    intro r hr
    obtain ⟨rfl, hNe⟩ := nonempty?_eq_some_iff.1 hr
    exact ⟨hNe, trim_trim r⟩
  cases hOpening : opening? line with
  | none =>
      rw [parse_of_no_opening hOpening] at h
      exact hShape line h
  | some o =>
      rw [parse_of_opening hOpening] at h
      rcases separated_cases o.rest with ⟨b, r, hBlank, hRest⟩ | hNone
      · rw [hRest, separated_of_colon hBlank] at h
        exact hShape r h
      · rw [separated_of_no_colon hNone] at h
        exact hShape o.rest h

/-- A text is a gap, perhaps with a colon in it, and its subject, if it has one;
what is put in place of the subject is read after the same gap. -/
theorem separated_subject {r u : Text} {colon : Bool}
    (h : separated r = (colon, some u)) :
    u ≠ [] ∧ ∃ gap, trimEnd r = gap ++ u ∧
      ∀ x, x <+: u → separated (gap ++ x) = (colon, nonempty? (trim x)) := by
  rcases separated_cases r with ⟨b, s, hBlank, rfl⟩ | hNone
  · rw [separated_of_colon hBlank, Prod.mk.injEq, nonempty?_eq_some_iff] at h
    obtain ⟨rfl, rfl, hNe⟩ := h
    obtain ⟨b', hBlank', hEq⟩ := exists_trimStart (trimEnd s)
    rw [← trimEnd_trimStart] at hEq
    have hInk : blank (':' :: s) = false := not_blank_of_mem (c := ':') (by simp) (by decide)
    refine ⟨hNe, b ++ ':' :: b', ?_, ?_⟩
    · rw [trimEnd_append b hInk, trimEnd_cons (by decide)]
      conv => lhs; rw [hEq]
      simp [trim]
    · intro x _
      rw [List.append_assoc, List.cons_append, separated_of_colon hBlank,
        trim_blank_append hBlank']
  · rw [separated_of_no_colon hNone, Prod.mk.injEq, nonempty?_eq_some_iff] at h
    obtain ⟨rfl, rfl, hNe⟩ := h
    obtain ⟨b, hBlank, hEq⟩ := exists_trimStart (trimEnd r)
    rw [← trimEnd_trimStart] at hEq
    refine ⟨hNe, b, hEq, ?_⟩
    intro x hx
    have hStart : (trimStart (b ++ x)).head? ≠ some ':' := by
      rw [trimStart_append_of_blank hBlank]
      intro hColon
      cases x with
      | nil => simp [trimStart] at hColon
      | cons c cs =>
          have hcu : c ∈ (trim r).head? := mem_head?_of_isPrefix hx (by simp)
          have hcInk : isBlank c = false := not_blank_head_trim hcu
          have hHead : trimStart (c :: cs) = c :: cs :=
            trimStart_of_head (by simpa using hcInk)
          have hEq : c = ':' := by simpa [hHead] using hColon
          subst hEq
          exact hNone (mem_head?_of_isPrefix (trimEnd_isPrefix (trimStart r)) hcu)
    rw [separated_of_no_colon hStart, trim_blank_append hBlank]

/-- A subject ends as its line does. -/
theorem getLast?_of_separated {r u : Text} {colon : Bool}
    (h : separated r = (colon, some u)) : (trimEnd r).getLast? = u.getLast? := by
  obtain ⟨hNe, gap, hEnd, -⟩ := separated_subject h
  obtain ⟨c, hLast⟩ := Option.isSome_iff_exists.1 (List.getLast?_isSome.2 hNe)
  rw [hEnd, List.getLast?_append, hLast]
  rfl

/-! ## Blank characters at the end of a header -/

theorem separated_append_blank (rest : Text) {b : Text} (hBlank : blank b = true) :
    separated (rest ++ b) = separated rest := by
  rcases separated_cases rest with ⟨g, r, hGap, rfl⟩ | hNone
  · rw [List.append_assoc, List.cons_append, separated_of_colon hGap, separated_of_colon hGap,
      trim_append_blank r hBlank]
  · have hNone' : (trimStart (rest ++ b)).head? ≠ some ':' := by
      cases hRest : blank rest with
      | true =>
          rw [trimStart_of_blank (by simp [hRest, hBlank])]
          simp
      | false =>
          rw [trimStart_append hRest]
          cases hStart : trimStart rest with
          | nil =>
              have hInk : ink rest = [] := by rw [← ink_trimStart, hStart]; rfl
              rw [ink_eq_nil_iff, hRest] at hInk
              contradiction
          | cons c cs =>
              rw [hStart] at hNone
              simpa using hNone
    rw [separated_of_no_colon hNone', separated_of_no_colon hNone, trim_append_blank rest hBlank]

theorem head?_append_blank {p : Char → Bool} {t b : Text} (hBlank : blank b = true)
    (hb : ∀ c, isBlank c = true → p c = false) (ht : ∀ c ∈ t.head?, p c = false) :
    ∀ c ∈ (t ++ b).head?, p c = false := by
  intro c hc
  cases t with
  | nil =>
      apply hb
      apply blank_of_mem hBlank
      exact List.mem_of_mem_head? (by simpa using hc)
  | cons d ds => exact ht c (by simpa using hc)

theorem isLetter_eq_false_of_isBlank {c : Char} (h : isBlank c = true) :
    isLetter c = false := by
  cases hc : isLetter c with
  | false => rfl
  | true =>
      rw [isBlank_eq_false_of_isLetter hc] at h
      contradiction

/-- Blank characters after a sealed opening belong to its rest. -/
theorem Opening.Sealed.append_blank {o : Opening} (h : o.Sealed) {b : Text}
    (hBlank : blank b = true) : Opening.Sealed { o with rest := o.rest ++ b } := by
  refine
    { type_ne_nil := h.type_ne_nil
      letters := h.letters
      scope_closed := h.scope_closed
      rest_head := ?_
      rest_scope := ?_ }
  · intro hScope
    exact head?_append_blank hBlank (fun _ => isLetter_eq_false_of_isBlank)
      (h.rest_head hScope)
  · intro hScope
    have hNone := (scope?_eq_none_iff _).1 (h.rest_scope hScope)
    rw [scope?_eq_none_iff]
    intro r hr hMem
    have hParen : isBlank ')' = false := by decide
    cases hRest : o.rest with
    | nil =>
        have hb : b = '(' :: r := by simpa [hRest] using hr
        have hOpen := blank_of_mem hBlank (c := '(') (by simp [hb])
        exact absurd hOpen (by decide)
    | cons d ds =>
        rw [hRest, List.cons_append] at hr
        obtain ⟨rfl, rfl⟩ := List.cons.inj hr
        rcases List.mem_append.1 hMem with hds | hb
        · exact hNone ds hRest hds
        · rw [blank_of_mem hBlank hb] at hParen
          contradiction

/-- Blank characters at the end of a line are read as the end of its rest. -/
theorem opening?_append_blank (line : Text) {b : Text} (hBlank : blank b = true) :
    opening? (line ++ b) = (opening? line).map fun o => { o with rest := o.rest ++ b } := by
  cases h : opening? line with
  | none =>
      rw [opening?_eq_none_iff] at h
      rw [Option.map_none, opening?_eq_none_iff]
      exact head?_append_blank hBlank (fun _ => isLetter_eq_false_of_isBlank) h
  | some o =>
      obtain ⟨hSealed, hLine⟩ := opening?_eq_some_iff.1 h
      rw [Option.map_some, opening?_eq_some_iff]
      refine ⟨hSealed.append_blank hBlank, ?_⟩
      simp [hLine, Opening.toText]

/-- Blank characters at the end of a line do not change how it is read. -/
theorem parse_append_blank (line : Text) {b : Text} (hBlank : blank b = true) :
    parse (line ++ b) = parse line := by
  have hLonger := opening?_append_blank line hBlank
  cases h : opening? line with
  | none =>
      rw [h, Option.map_none] at hLonger
      rw [parse_of_no_opening h, parse_of_no_opening hLonger, trim_append_blank line hBlank]
  | some o =>
      rw [h, Option.map_some] at hLonger
      rw [parse_of_opening h, parse_of_opening hLonger, separated_append_blank o.rest hBlank]

theorem parse_trimEnd (line : Text) : parse (trimEnd line) = parse line := by
  obtain ⟨b, hBlank, hEq⟩ := exists_trimEnd line
  conv => rhs; rw [hEq]
  exact (parse_append_blank (trimEnd line) hBlank).symm

end CommitLint.Header
