/-!
# Blank characters, trimming and words

Commit messages are measured, cut and compared in code points, so text is
modelled as the list of its code points and every length, index and span in
this library counts them.

The blank characters are those with the bidirectional class B, S or WS or the
general category Zs: the ASCII controls from tab to carriage return and from
U+001C to U+001F, the space, and the Unicode spaces.  The zero-width
characters U+200B and U+FEFF are not blank, nor is the Mongolian vowel
separator U+180E.

Trimming removes a maximal blank run at each end; `trim_eq_self_iff` tells the
texts that it leaves alone.  A word is a maximal run of characters that are not
blank, and `words` lists them in order.  What the blank characters hide is
`ink`, the text without them: trimming does not change it, and the words of a
text make it up.
-/

namespace CommitLint

/-- Text is a sequence of code points. -/
abbrev Text := List Char

namespace Text

/-- The blank characters. -/
def isBlank (c : Char) : Bool :=
  let n := c.toNat
  (9 ≤ n && n ≤ 13) || (28 ≤ n && n ≤ 32) || n == 0x85 || n == 0xA0 ||
    n == 0x1680 || (0x2000 ≤ n && n ≤ 0x200A) || n == 0x2028 || n == 0x2029 ||
    n == 0x202F || n == 0x205F || n == 0x3000

/-- Every character is blank; in particular the empty text is. -/
def blank (t : Text) : Bool := t.all isBlank

/-- Remove the leading blank run. -/
def trimStart (t : Text) : Text := t.dropWhile isBlank

/-- Remove the trailing blank run. -/
def trimEnd (t : Text) : Text := (t.reverse.dropWhile isBlank).reverse

/-- Remove the blank run at each end. -/
def trim (t : Text) : Text := trimEnd (trimStart t)

/-- `none` for the empty text, so that "absent" has one form. -/
def nonempty? (t : Text) : Option Text := if t.isEmpty then none else some t

/-- The characters that are not blank, in order. -/
def ink (t : Text) : Text := t.filter fun c => !isBlank c

/-- A word that has reached this point ends here: nothing follows, or a blank
character does. -/
def endsWord : Text → Bool
  | [] => true
  | c :: _ => isBlank c

/-- The maximal runs of characters that are not blank, in order. -/
def words : Text → List Text
  | [] => []
  | c :: cs =>
    if isBlank c then words cs
    else if endsWord cs then [c] :: words cs
    else
      match words cs with
      | [] => [[c]]
      | w :: ws => (c :: w) :: ws

/-- The ASCII letters, of either case. -/
def isLetter (c : Char) : Bool := c.isAlpha

/-- Whether the first text occurs in the second as a contiguous part. -/
def occursIn (part : Text) : Text → Bool
  | [] => part.isEmpty
  | c :: cs => part.isPrefixOf (c :: cs) || occursIn part cs

/-! ## Small facts -/

@[simp] theorem blank_nil : blank [] = true := rfl

@[simp] theorem blank_cons (c : Char) (cs : Text) :
    blank (c :: cs) = (isBlank c && blank cs) := rfl

@[simp] theorem ink_append (s t : Text) : ink (s ++ t) = ink s ++ ink t := by
  simp [ink]

/-- A text is blank exactly when nothing is left of it without its blank
characters. -/
theorem ink_eq_nil_iff (t : Text) : ink t = [] ↔ blank t = true := by
  simp [ink, blank]

theorem blank_eq_of_ink_eq {s t : Text} (h : ink s = ink t) : blank s = blank t := by
  rw [Bool.eq_iff_iff, ← ink_eq_nil_iff, ← ink_eq_nil_iff, h]

/-- No word is empty. -/
theorem word_ne_nil {t w : Text} (h : w ∈ words t) : w ≠ [] := by
  fun_induction words t with
  | case1 => simp at h
  | case2 c cs hc ih => exact ih h
  | case3 c cs hc he ih =>
    rcases List.mem_cons.1 h with rfl | h
    · simp
    · exact ih h
  | case4 c cs hc he hw ih =>
    rw [List.mem_singleton] at h
    simp [h]
  | case5 c cs hc he w' ws hw ih =>
    rcases List.mem_cons.1 h with rfl | h
    · simp
    · exact ih (by simp [hw, h])

/-! ## Trimming and words -/

theorem trimStart_of_head {t : Text} (h : ∀ c ∈ t.head?, isBlank c = false) :
    trimStart t = t := by
  cases t with
  | nil => rfl
  | cons c cs => simp [trimStart, h c (by simp)]

theorem head?_trimStart {t : Text} {c : Char} (h : c ∈ (trimStart t).head?) :
    isBlank c = false := by
  have := List.head?_dropWhile_not isBlank t
  rw [show List.dropWhile isBlank t = trimStart t from rfl, Option.mem_def.1 h] at this
  simpa using this

theorem getLast?_trimEnd {t : Text} {c : Char} (h : c ∈ (trimEnd t).getLast?) :
    isBlank c = false := by
  rw [trimEnd, List.getLast?_reverse] at h
  exact head?_trimStart (t := t.reverse) h

theorem trimEnd_of_getLast {t : Text} (h : ∀ c ∈ t.getLast?, isBlank c = false) :
    trimEnd t = t := by
  have : trimStart t.reverse = t.reverse :=
    trimStart_of_head fun c hc => h c (by simpa using hc)
  simp only [trimStart] at this
  simp [trimEnd, this]

@[simp] theorem ink_trimStart (t : Text) : ink (trimStart t) = ink t := by
  induction t with
  | nil => rfl
  | cons c cs ih =>
    by_cases h : isBlank c <;> simp_all [trimStart, ink]

@[simp] theorem ink_reverse (t : Text) : ink t.reverse = (ink t).reverse := by
  simp [ink, List.filter_reverse]

@[simp] theorem ink_trimEnd (t : Text) : ink (trimEnd t) = ink t := by
  rw [trimEnd, ink_reverse]
  show (ink (trimStart t.reverse)).reverse = ink t
  simp

@[simp] theorem ink_trim (t : Text) : ink (trim t) = ink t := by simp [trim]

theorem trimStart_suffix (t : Text) : trimStart t <:+ t := List.dropWhile_suffix _

theorem trimEnd_isPrefix (t : Text) : trimEnd t <+: t := by
  have h := List.dropWhile_suffix isBlank (l := t.reverse)
  simpa [trimEnd] using List.reverse_prefix.2 h

theorem trimStart_of_blank {t : Text} (h : blank t = true) : trimStart t = [] := by
  induction t with
  | nil => rfl
  | cons c cs ih =>
    simp only [blank_cons, Bool.and_eq_true] at h
    simpa [trimStart, h.1] using ih h.2

theorem trim_eq_nil_iff (t : Text) : trim t = [] ↔ blank t = true := by
  constructor
  · intro h
    rw [← ink_eq_nil_iff, ← ink_trim, h]
    rfl
  · intro h
    rw [trim, trimStart_of_blank h]
    rfl

theorem not_blank_head_trim {t : Text} {c : Char} (h : c ∈ (trim t).head?) :
    isBlank c = false := by
  obtain ⟨r, hr⟩ := trimEnd_isPrefix (trimStart t)
  refine head?_trimStart (t := t) ?_
  rw [← hr]
  cases hs : trimEnd (trimStart t) with
  | nil => simp [trim, hs] at h
  | cons d ds => simpa [trim, hs] using h

theorem not_blank_last_trim {t : Text} {c : Char} (h : c ∈ (trim t).getLast?) :
    isBlank c = false := getLast?_trimEnd h

/-- A text is trimmed exactly when no blank character stands at either end. -/
theorem trim_eq_self_iff (t : Text) : trim t = t ↔
    (∀ c ∈ t.head?, isBlank c = false) ∧ ∀ c ∈ t.getLast?, isBlank c = false := by
  constructor
  · intro h
    exact ⟨fun c hc => not_blank_head_trim (h.symm ▸ hc),
      fun c hc => not_blank_last_trim (h.symm ▸ hc)⟩
  · intro h
    rw [trim, trimStart_of_head h.1, trimEnd_of_getLast h.2]

@[simp] theorem trim_trim (t : Text) : trim (trim t) = trim t :=
  (trim_eq_self_iff _).2 ⟨fun _ h => not_blank_head_trim h, fun _ h => not_blank_last_trim h⟩

/-- The words of a text, joined, are its characters that are not blank. -/
theorem flatten_words (t : Text) : (words t).flatten = ink t := by
  fun_induction words t with
  | case1 => rfl
  | case2 c cs hc ih => simpa [ink, hc] using ih
  | case3 c cs hc he ih => simpa [ink, hc] using ih
  | case4 c cs hc he hw ih =>
    rw [hw] at ih
    simpa [ink, hc] using ih
  | case5 c cs hc he w ws hw ih =>
    rw [hw] at ih
    simpa [ink, hc] using ih

/-- No word holds a blank character. -/
theorem not_blank_of_mem_words {t w : Text} (h : w ∈ words t) {c : Char} (hc : c ∈ w) :
    isBlank c = false := by
  have hi : c ∈ ink t := flatten_words t ▸ List.mem_flatten.2 ⟨w, h, hc⟩
  simpa [ink] using (List.mem_filter.1 hi).2

end Text

end CommitLint
