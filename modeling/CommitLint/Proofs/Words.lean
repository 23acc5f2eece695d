import CommitLint.Proofs.Trimming
import Mathlib.Data.List.TakeWhile

/-!
# Words and the gaps between them

The words of two texts with a blank character between them are those of the
one and then those of the other.  This equation, `words_append_blank`, is all
that later files use about how words are found.

A gap counts for more the more it differs from a single space: `gaps` weighs a
space by one, a line feed by nothing, and any other blank character by two.  A
line has at least one unit of gap between any two of its words, and a line with
no more than that has exactly one space in each gap and none at its head.

Main results: `length_words_le_gaps` and `eq_spaced_of_gaps_le`.
-/

namespace CommitLint.Text

/-! ## Where words begin and end -/

/-- No character of a text is blank. -/
def Solid (t : Text) : Prop := ∀ c ∈ t, isBlank c = false

theorem words_cons_blank {c : Char} (hBlank : isBlank c = true) (t : Text) :
    words (c :: t) = words t := by
  rw [words, if_pos hBlank]

theorem words_blank_append {b : Text} (hBlank : blank b = true) (t : Text) :
    words (b ++ t) = words t := by
  induction b with
  | nil => rfl
  | cons c cs ih =>
      rw [blank_cons, Bool.and_eq_true] at hBlank
      rw [List.cons_append, words_cons_blank hBlank.1, ih hBlank.2]

theorem words_of_blank {b : Text} (hBlank : blank b = true) : words b = [] := by
  have h := words_blank_append hBlank []
  rw [List.append_nil] at h
  rw [h]
  rfl

/-- A word is taken whole when it ends where the rest begins. -/
theorem words_solid_append {w r : Text} (hSolid : Solid w) (hNe : w ≠ [])
    (hEnd : endsWord r = true) : words (w ++ r) = w :: words r := by
  induction w with
  | nil => contradiction
  | cons c cs ih =>
      have hInk : isBlank c = false := hSolid c (by simp)
      cases cs with
      | nil => simp [words, hInk, hEnd]
      | cons d ds =>
          have hTail : words (d :: ds ++ r) = (d :: ds) :: words r :=
            ih (fun x hx => hSolid x (by simp [hx])) (by simp)
          have hOpen : endsWord (d :: ds ++ r) = false := hSolid d (by simp)
          rw [List.cons_append, words, hInk, hOpen, hTail]
          rfl

theorem words_of_solid {w : Text} (hSolid : Solid w) (hNe : w ≠ []) : words w = [w] := by
  have h := words_solid_append hSolid hNe (r := []) rfl
  rw [List.append_nil] at h
  rw [h]
  rfl

/-- A text that does not begin with a blank character begins with a word. -/
theorem exists_word {t : Text} (hNe : t ≠ []) (hHead : ∀ c ∈ t.head?, isBlank c = false) :
    ∃ w r, t = w ++ r ∧ w ≠ [] ∧ Solid w ∧ endsWord r = true ∧ words t = w :: words r := by
  refine ⟨t.takeWhile (fun c => !isBlank c), t.dropWhile (fun c => !isBlank c),
    (List.takeWhile_append_dropWhile).symm, ?_⟩
  have hSolid : Solid (t.takeWhile fun c => !isBlank c) := by
    intro c hc
    simpa using List.mem_takeWhile_imp hc
  have hWord : t.takeWhile (fun c => !isBlank c) ≠ [] := by
    cases t with
    | nil => contradiction
    | cons c cs => simp [hHead c (by simp)]
  have hEnd : endsWord (t.dropWhile fun c => !isBlank c) = true := by
    have hStop := List.head?_dropWhile_not (fun c => !isBlank c) t
    cases hDrop : t.dropWhile (fun c => !isBlank c) with
    | nil => rfl
    | cons c cs =>
        rw [hDrop] at hStop
        simpa [endsWord] using hStop
  refine ⟨hWord, hSolid, hEnd, ?_⟩
  have h := words_solid_append hSolid hWord hEnd
  rwa [List.takeWhile_append_dropWhile] at h

theorem exists_word_of_head? {t : Text} (hHead : ∃ c ∈ t.head?, isBlank c = false) :
    ∃ w r, t = w ++ r ∧ w ≠ [] ∧ Solid w ∧ endsWord r = true ∧ words t = w :: words r := by
  apply exists_word
  · rintro rfl
    simp at hHead
  · exact head?_of_exists hHead

/-- **Words one after another**: a text is blank, or a gap, a word and a text
that the word does not run into. -/
theorem word_induction {P : Text → Prop} (hBlank : ∀ b, blank b = true → P b)
    (hWord : ∀ b w r, blank b = true → w ≠ [] → Solid w → endsWord r = true → P r →
      P (b ++ (w ++ r))) (t : Text) : P t := by
  induction hLength : t.length using Nat.strongRecOn generalizing t with
  | ind n ih =>
      cases hInk : blank t with
      | true => exact hBlank t hInk
      | false =>
          obtain ⟨b, hb, hEq⟩ := exists_trimStart t
          have hNe : trimStart t ≠ [] := by
            intro hNil
            rw [hNil, List.append_nil] at hEq
            rw [hEq, hb] at hInk
            contradiction
          obtain ⟨w, r, hSplit, hw, hSolid, hEnd, -⟩ :=
            exists_word hNe fun c hc => head?_trimStart hc
          rw [hSplit] at hEq
          have hShorter : r.length < n := by
            have hPos : 0 < w.length := List.length_pos_iff.2 hw
            rw [← hLength, hEq]
            simp only [List.length_append]
            omega
          rw [hEq]
          exact hWord b w r hb hw hSolid hEnd (ih r.length hShorter r rfl)

/-- Words split at a blank character. -/
theorem words_append_blank (s : Text) {c : Char} (hBlank : isBlank c = true) (t : Text) :
    words (s ++ c :: t) = words s ++ words t := by
  induction s using word_induction with
  | hBlank b hb =>
      rw [words_blank_append hb, words_of_blank hb, words_cons_blank hBlank, List.nil_append]
  | hWord b w r hb hw hSolid hEnd ih =>
      have hOpen : endsWord (r ++ c :: t) = true := by
        cases r with
        | nil => exact hBlank
        | cons d ds => exact hEnd
      rw [List.append_assoc, List.append_assoc, words_blank_append hb, words_blank_append hb,
        words_solid_append hSolid hw hOpen, words_solid_append hSolid hw hEnd, ih,
        List.cons_append]

theorem words_append_of_blank (s : Text) {b : Text} (hBlank : blank b = true) :
    words (s ++ b) = words s := by
  cases b with
  | nil => rw [List.append_nil]
  | cons c cs =>
      rw [blank_cons, Bool.and_eq_true] at hBlank
      rw [words_append_blank s hBlank.1, words_of_blank hBlank.2, List.append_nil]

theorem words_eq_nil_iff (t : Text) : words t = [] ↔ blank t = true := by
  constructor
  · intro hNil
    rw [← ink_eq_nil_iff, ← flatten_words, hNil]
    rfl
  · exact words_of_blank

theorem solid_of_mem_words {t w : Text} (hMem : w ∈ words t) : Solid w := fun _ hc =>
  not_blank_of_mem_words hMem hc

theorem ink_of_solid {w : Text} (hSolid : Solid w) : ink w = w := by
  rw [ink, List.filter_eq_self]
  intro c hc
  simp [hSolid c hc]

/-! ## The size of gaps -/

/-- What a character adds to a gap. -/
def gapWeight (c : Char) : Nat :=
  if c = ' ' then 1
  else if c = '\n' then 0
  else if isBlank c then 2
  else 0

/-- How much blank space a text has within its lines. -/
def gaps : Text → Nat
  | [] => 0
  | c :: cs => gapWeight c + gaps cs

@[simp] theorem gaps_nil : gaps [] = 0 := rfl

@[simp] theorem gaps_cons (c : Char) (t : Text) : gaps (c :: t) = gapWeight c + gaps t := rfl

@[simp] theorem gaps_append (s t : Text) : gaps (s ++ t) = gaps s + gaps t := by
  induction s with
  | nil => simp
  | cons c cs ih =>
      rw [List.cons_append, gaps_cons, gaps_cons, ih]
      omega

theorem gaps_of_solid {w : Text} (hSolid : Solid w) : gaps w = 0 := by
  induction w with
  | nil => rfl
  | cons c cs ih =>
      have hInk : isBlank c = false := hSolid c (by simp)
      have hSpace : c ≠ ' ' := by
        rintro rfl
        exact absurd hInk (by decide)
      rw [gaps_cons, ih fun x hx => hSolid x (by simp [hx])]
      simp [gapWeight, hSpace, hInk]

/-- Line feeds between lines add nothing. -/
theorem gaps_unlines (ls : List Text) : gaps (unlines ls) = gaps ls.flatten := by
  induction ls with
  | nil => rfl
  | cons l ls ih =>
      cases ls with
      | nil => simp
      | cons m ms =>
          have hFeed : gapWeight '\n' = 0 := by decide
          rw [unlines_cons l (by simp), gaps_append, gaps_cons, ih, hFeed]
          simp

theorem gaps_trim_le (t : Text) : gaps (trim t) ≤ gaps t := by
  obtain ⟨b, -, hStart⟩ := exists_trimStart t
  obtain ⟨e, -, hEnd⟩ := exists_trimEnd (trimStart t)
  have hParts : gaps t = gaps b + (gaps (trim t) + gaps e) := by
    conv => lhs; rw [hStart, hEnd]
    rw [gaps_append, gaps_append, trim]
  omega

/-- A blank character on a line has a weight, and the lightest is the space. -/
theorem gapWeight_of_blank {c : Char} (hBlank : isBlank c = true) (hFeed : c ≠ '\n') :
    1 ≤ gapWeight c ∧ (gapWeight c = 1 → c = ' ') := by
  unfold gapWeight
  by_cases hSpace : c = ' '
  · simp [hSpace]
  · simp [hSpace, hFeed, hBlank]

/-- A gap on a line has a size, and the smallest one is a space. -/
theorem gaps_of_gap {b : Text} (hBlank : blank b = true) (hFeed : '\n' ∉ b) (hNe : b ≠ []) :
    1 ≤ gaps b ∧ (gaps b = 1 → b = [' ']) := by
  cases b with
  | nil => contradiction
  | cons c cs =>
      have hWeight : ∀ d ∈ c :: cs, 1 ≤ gapWeight d ∧ (gapWeight d = 1 → d = ' ') := by
        intro d hd
        exact gapWeight_of_blank (blank_of_mem hBlank hd) fun h => hFeed (h ▸ hd)
      obtain ⟨hOne, hSpace⟩ := hWeight c (by simp)
      rw [gaps_cons]
      refine ⟨by omega, ?_⟩
      intro hLeast
      cases cs with
      | nil =>
          rw [gaps_nil] at hLeast
          rw [hSpace (by omega)]
      | cons d ds =>
          have hMore := (hWeight d (by simp)).1
          rw [gaps_cons] at hLeast
          omega

/-- Words, each after one space. -/
def spaced (ws : List Text) : Text := ws.flatMap fun w => ' ' :: w

@[simp] theorem spaced_nil : spaced [] = [] := rfl

@[simp] theorem spaced_cons (w : Text) (ws : List Text) :
    spaced (w :: ws) = ' ' :: w ++ spaced ws := by
  simp [spaced]

/-- **Gaps and words**: the part of a line after a word has a gap before each of
its words, and single spaces are the least it can have. -/
theorem length_words_le_gaps {r : Text} (hFeed : '\n' ∉ r) (hEnd : endsWord r = true) :
    (words r).length ≤ gaps r ∧ (gaps r ≤ (words r).length → r = spaced (words r)) := by
  induction r using word_induction with
  | hBlank b hb =>
      rw [words_of_blank hb]
      refine ⟨Nat.zero_le _, ?_⟩
      intro hNone
      by_contra hNe
      have := (gaps_of_gap hb hFeed (by simpa using hNe)).1
      rw [List.length_nil] at hNone
      omega
  | hWord b w r hb hw hSolid hOpen ih =>
      simp only [List.mem_append, not_or] at hFeed
      have hGap : b ≠ [] := by
        rintro rfl
        obtain ⟨c, cs, rfl⟩ := List.exists_cons_of_ne_nil hw
        have hBlank : isBlank c = true := hEnd
        rw [hSolid c (by simp)] at hBlank
        contradiction
      obtain ⟨hOne, hSpace⟩ := gaps_of_gap hb hFeed.1 hGap
      obtain ⟨hLength, hSpaced⟩ := ih hFeed.2.2 hOpen
      rw [words_blank_append hb, words_solid_append hSolid hw hOpen, List.length_cons,
        gaps_append, gaps_append, gaps_of_solid hSolid]
      refine ⟨by omega, ?_⟩
      intro hLeast
      rw [spaced_cons, ← hSpaced (by omega), hSpace (by omega)]
      rfl

/-- A line whose gaps are the least for its words is its words with single
spaces between them. -/
theorem eq_spaced_of_gaps_le {l w : Text} {ws : List Text} (hFeed : '\n' ∉ l)
    (hWords : words l = w :: ws) :
    ws.length ≤ gaps l ∧ (gaps l ≤ ws.length → l = w ++ spaced ws) := by
  obtain ⟨b, hb, hStart⟩ := exists_trimStart l
  have hSame : words l = words (trimStart l) := by
    conv => lhs; rw [hStart]
    exact words_blank_append hb _
  have hNe : trimStart l ≠ [] := by
    intro hNil
    rw [hSame, hNil] at hWords
    simp [words] at hWords
  obtain ⟨v, r, hSplit, -, hSolid, hEnd, hHead⟩ := exists_word hNe fun c hc => head?_trimStart hc
  rw [hSame, hHead] at hWords
  obtain ⟨rfl, rfl⟩ := List.cons.inj hWords
  rw [hSplit] at hStart
  have hFeeds : '\n' ∉ b ∧ '\n' ∉ r := by
    rw [hStart] at hFeed
    simp only [List.mem_append, not_or] at hFeed
    exact ⟨hFeed.1, hFeed.2.2⟩
  obtain ⟨hLength, hSpaced⟩ := length_words_le_gaps hFeeds.2 hEnd
  have hGaps : gaps l = gaps b + gaps r := by
    rw [hStart, gaps_append, gaps_append, gaps_of_solid hSolid, Nat.zero_add]
  refine ⟨by omega, ?_⟩
  intro hLeast
  have hNil : b = [] := by
    by_contra hb'
    have := (gaps_of_gap hb hFeeds.1 hb').1
    omega
  rw [hNil, List.nil_append] at hStart
  rw [hStart, ← hSpaced (by omega)]

end CommitLint.Text
