import CommitLint.Fix
import CommitLint.Proofs.Words

/-!
# What wrapping does to a line

Wrapping lays out the words of a line again.  So it changes blank characters
only, and a gap never grows: each word is put after one space or at the head of
a line.  A line whose gaps do not shrink was laid out already, which means that
wrapping does not change it.

Everything is proved for `fillFrom` by induction on the words that are left,
with the line begun so far as the variable.  The last section carries the
results over to a text of which one line, or one line after another, is wrapped
at an index that may have been counted long before.

Main results: `ink_wrapAll`, `gaps_wrapAll_le`.
-/

namespace CommitLint.Wrap

open Text

variable {width : Int}

/-! ## The words of a layout -/

theorem ink_fillFrom (line : Text) (ws : List Text) :
    (fillFrom width line ws).flatMap ink = ink line ++ ws.flatMap ink := by
  induction ws generalizing line with
  | nil => simp [fillFrom]
  | cons w ws ih =>
      rw [fillFrom]
      split
      · have hSpace : ink (' ' :: w) = ink w := List.filter_cons_of_neg (by decide)
        rw [ih, ink_append, hSpace, List.flatMap_cons, List.append_assoc]
      · rw [List.flatMap_cons, ih, List.flatMap_cons]

theorem flatMap_ink_of_solid {ws : List Text} (hSolid : ∀ w ∈ ws, Solid w) :
    ws.flatMap ink = ws.flatten := by
  induction ws with
  | nil => rfl
  | cons w ws ih =>
      rw [List.flatMap_cons, List.flatten_cons, ink_of_solid (hSolid w (by simp)),
        ih fun v hv => hSolid v (by simp [hv])]

theorem flatMap_ink_words (t : Text) : (words t).flatMap ink = ink t := by
  rw [flatMap_ink_of_solid fun w hw => solid_of_mem_words hw, flatten_words]

/-- **Wrapping keeps the ink**: only blank characters come and go. -/
@[simp] theorem ink_wrap (t : Text) : ink (wrap width t) = ink t := by
  rw [wrap, ink_unlines, wrappedLines]
  cases hWords : words t with
  | nil =>
      rw [← flatMap_ink_words, hWords]
      rfl
  | cons w ws =>
      rw [fill, ink_fillFrom, ← flatMap_ink_words t, hWords, List.flatMap_cons]

/-- Only the space comes into the lines. -/
theorem not_mem_fillFrom {c : Char} (hSpace : c ≠ ' ') {line : Text} {ws : List Text}
    (hLine : c ∉ line) (hWords : ∀ w ∈ ws, c ∉ w) : ∀ l ∈ fillFrom width line ws, c ∉ l := by
  induction ws generalizing line with
  | nil => simpa [fillFrom] using hLine
  | cons w ws ih =>
      have hw : c ∉ w := hWords w (by simp)
      have hws : ∀ v ∈ ws, c ∉ v := fun v hv => hWords v (by simp [hv])
      rw [fillFrom]
      split
      · have hLonger : c ∉ line ++ ' ' :: w := by simp [hLine, hSpace, hw]
        exact ih hLonger hws
      · intro l hl
        rcases List.mem_cons.1 hl with rfl | hl
        · exact hLine
        · exact ih hw hws l hl

theorem not_mem_word {c : Char} (hBlank : isBlank c = true) {t w : Text} (hMem : w ∈ words t) :
    c ∉ w := by
  intro hc
  have hInk := not_blank_of_mem_words hMem hc
  rw [hBlank] at hInk
  contradiction

theorem fillFrom_ne_nil (line : Text) (ws : List Text) : fillFrom width line ws ≠ [] := by
  induction ws generalizing line with
  | nil => simp [fillFrom]
  | cons w ws ih =>
      rw [fillFrom]
      split
      · exact ih _
      · simp

/-- A text with words becomes the lines of their layout. -/
theorem lines_wrap {t w : Text} {ws : List Text} (hWords : words t = w :: ws) :
    lines (wrap width t) = fillFrom width w ws := by
  have hFeed : ∀ v ∈ w :: ws, '\n' ∉ v := by
    intro v hv
    rw [← hWords] at hv
    exact not_mem_word isBlank_newline hv
  rw [wrap, wrappedLines, hWords, fill]
  exact lines_unlines (fillFrom_ne_nil w ws)
    (not_mem_fillFrom (by decide) (hFeed w (by simp)) fun v hv => hFeed v (by simp [hv]))

/-! ## Gaps -/

theorem gaps_fillFrom (width : Int) (line : Text) (ws : List Text)
    (hSolid : ∀ w ∈ ws, Solid w) :
    gaps (fillFrom width line ws).flatten ≤ gaps line + ws.length ∧
      (gaps line + ws.length ≤ gaps (fillFrom width line ws).flatten →
        fillFrom width line ws = [line ++ spaced ws]) := by
  induction ws generalizing line with
  | nil => simp [fillFrom]
  | cons w ws ih =>
      have hTail : ∀ v ∈ ws, Solid v := fun v hv => hSolid v (by simp [hv])
      have hWord : gaps w = 0 := gaps_of_solid (hSolid w (by simp))
      have hSpace : gapWeight ' ' = 1 := by decide
      rw [fillFrom, List.length_cons]
      split
      · obtain ⟨hLe, hEq⟩ := ih (line ++ ' ' :: w) hTail
        rw [gaps_append, gaps_cons, hWord, hSpace] at hLe hEq
        refine ⟨by omega, ?_⟩
        intro hLeast
        rw [hEq (by omega), spaced_cons]
        simp
      · obtain ⟨hLe, -⟩ := ih w hTail
        rw [List.flatten_cons, gaps_append]
        refine ⟨by omega, ?_⟩
        intro hLeast
        omega

/-- **Gaps never grow** on a line that is wrapped, and a line whose gaps do not
shrink stays as it is. -/
theorem gaps_wrap_le (width : Int) {l : Text} (hFeed : '\n' ∉ l) :
    gaps (wrap width l) ≤ gaps l ∧ (gaps l ≤ gaps (wrap width l) → wrap width l = l) := by
  cases hWords : words l with
  | nil =>
      have hWrap : wrap width l = [] := by
        rw [wrap, wrappedLines, hWords]
        rfl
      rw [words_eq_nil_iff] at hWords
      rw [hWrap]
      refine ⟨Nat.zero_le _, ?_⟩
      intro hNone
      by_contra hNe
      have := (gaps_of_gap hWords hFeed (Ne.symm hNe)).1
      rw [gaps_nil] at hNone
      omega
  | cons w ws =>
      have hSolid : ∀ v ∈ ws, Solid v := by
        intro v hv
        exact solid_of_mem_words (t := l) (by simp [hWords, hv])
      have hWord : gaps w = 0 :=
        gaps_of_solid (solid_of_mem_words (t := l) (by simp [hWords]))
      obtain ⟨hLe, hFill⟩ := gaps_fillFrom width w ws hSolid
      obtain ⟨hLength, hSpaced⟩ := eq_spaced_of_gaps_le hFeed hWords
      rw [wrap, wrappedLines, hWords, fill, gaps_unlines]
      refine ⟨by omega, ?_⟩
      intro hLeast
      rw [hFill (by omega), unlines_singleton]
      exact (hSpaced (by omega)).symm

end CommitLint.Wrap

/-! ## Lines of a text -/

namespace CommitLint

open Text

/-- Wrapping at an index takes one line out of the others, or changes nothing. -/
theorem wrapLineAt_cases (k : Nat) (t : Text) :
    ((lines t)[k]? = none ∧ Fix.wrapLineAt k t = t) ∨
      ∃ front l back, lines t = front ++ l :: back ∧ front.length = k ∧
        Fix.wrapLineAt k t = unlines (front ++ Wrap.wrap Fix.wrapWidth l :: back) := by
  cases hLine : (lines t)[k]? with
  | none => exact Or.inl ⟨rfl, by simp [Fix.wrapLineAt, hLine]⟩
  | some l =>
      obtain ⟨hBound, hGet⟩ := List.getElem?_eq_some_iff.1 hLine
      refine Or.inr ⟨(lines t).take k, l, (lines t).drop (k + 1), ?_, ?_, ?_⟩
      · rw [← hGet, List.getElem_cons_drop, List.take_append_drop]
      · rw [List.length_take, Nat.min_eq_left (Nat.le_of_lt hBound)]
      · simp only [Fix.wrapLineAt, hLine]
        rw [List.set_eq_take_append_cons_drop, if_pos hBound]

/-- Lines with the one at an index wrapped; an index past the end changes
nothing. -/
def rewrapAt : Nat → List Text → List Text
  | _, [] => []
  | 0, l :: ls => lines (Wrap.wrap Fix.wrapWidth l) ++ ls
  | k + 1, l :: ls => l :: rewrapAt k ls

theorem rewrapAt_of_length_le {k : Nat} {ls : List Text} (h : ls.length ≤ k) :
    rewrapAt k ls = ls := by
  induction ls generalizing k with
  | nil => cases k <;> rfl
  | cons l ls ih =>
      rw [List.length_cons] at h
      obtain ⟨j, rfl⟩ : ∃ j, k = j + 1 := ⟨k - 1, by omega⟩
      rw [rewrapAt, ih (by omega)]

theorem rewrapAt_append_cons (front back : List Text) (l : Text) :
    rewrapAt front.length (front ++ l :: back) =
      front ++ (lines (Wrap.wrap Fix.wrapWidth l) ++ back) := by
  induction front with
  | nil => rfl
  | cons f fs ih => rw [List.cons_append, List.length_cons, rewrapAt, ih, List.cons_append]

theorem rewrapAt_of_getElem? {k : Nat} {l : Text} {ls : List Text} (hLine : ls[k]? = some l) :
    rewrapAt k ls = ls.take k ++ (lines (Wrap.wrap Fix.wrapWidth l) ++ ls.drop (k + 1)) := by
  induction ls generalizing k with
  | nil => simp at hLine
  | cons m ms ih =>
      cases k with
      | zero =>
          have hEq : m = l := by simpa using hLine
          rw [rewrapAt, hEq]
          rfl
      | succ k =>
          rw [rewrapAt, ih (by simpa using hLine)]
          rfl

/-- The lines of a text with one line wrapped. -/
theorem lines_wrapLineAt (k : Nat) (t : Text) :
    lines (Fix.wrapLineAt k t) = rewrapAt k (lines t) := by
  rcases wrapLineAt_cases k t with ⟨hNone, hSame⟩ | ⟨front, l, back, hLines, hLength, hNew⟩
  · rw [hSame, rewrapAt_of_length_le (List.getElem?_eq_none_iff.1 hNone)]
  · have hFeed : ∀ x ∈ front ++ l :: back, '\n' ∉ x := by
      intro x hx
      rw [← hLines] at hx
      exact newline_not_mem_of_mem_lines hx
    rw [hNew, hLines, ← hLength, rewrapAt_append_cons]
    exact lines_unlines_splice (fun x hx => hFeed x (by simp [hx]))
      (fun x hx => hFeed x (by simp [hx]))

/-- The first line is the line at index zero. -/
theorem firstLine_wrapLineAt_zero (t : Text) :
    firstLine (Fix.wrapLineAt 0 t) = firstLine (Wrap.wrap Fix.wrapWidth (firstLine t)) := by
  obtain ⟨rest, hLines⟩ := lines_eq_cons t
  obtain ⟨below, hWrap⟩ := lines_eq_cons (Wrap.wrap Fix.wrapWidth (firstLine t))
  apply firstLine_of_lines
  rw [lines_wrapLineAt, hLines, rewrapAt, hWrap]
  rfl

theorem firstLine_wrapLineAt_succ (k : Nat) (t : Text) :
    firstLine (Fix.wrapLineAt (k + 1) t) = firstLine t := by
  obtain ⟨rest, hLines⟩ := lines_eq_cons t
  apply firstLine_of_lines
  rw [lines_wrapLineAt, hLines, rewrapAt]

@[simp] theorem ink_wrapLineAt (k : Nat) (t : Text) : ink (Fix.wrapLineAt k t) = ink t := by
  rcases wrapLineAt_cases k t with ⟨-, hSame⟩ | ⟨front, l, back, hLines, -, hNew⟩
  · rw [hSame]
  · rw [hNew, ← unlines_lines t, hLines]
    simp

@[simp] theorem blank_wrapLineAt (k : Nat) (t : Text) :
    blank (Fix.wrapLineAt k t) = blank t := blank_eq_of_ink_eq (ink_wrapLineAt k t)

theorem gaps_wrapLineAt_le (k : Nat) (t : Text) :
    gaps (Fix.wrapLineAt k t) ≤ gaps t ∧
      (gaps t ≤ gaps (Fix.wrapLineAt k t) → Fix.wrapLineAt k t = t ∧
        ∀ l ∈ (lines t)[k]?, Wrap.wrap Fix.wrapWidth l = l) := by
  rcases wrapLineAt_cases k t with ⟨hNone, hSame⟩ | ⟨front, l, back, hLines, hLength, hNew⟩
  · rw [hSame]
    refine ⟨Nat.le_refl _, ?_⟩
    intro _
    exact ⟨rfl, by simp [hNone]⟩
  · have hFeed : '\n' ∉ l := newline_not_mem_of_mem_lines (t := t) (by simp [hLines])
    obtain ⟨hLe, hEq⟩ := Wrap.gaps_wrap_le Fix.wrapWidth hFeed
    have hOld : gaps t = gaps front.flatten + (gaps l + gaps back.flatten) := by
      rw [← unlines_lines t, hLines, gaps_unlines]
      simp
    have hAfter : gaps (Fix.wrapLineAt k t) = gaps front.flatten +
        (gaps (Wrap.wrap Fix.wrapWidth l) + gaps back.flatten) := by
      rw [hNew, gaps_unlines]
      simp
    refine ⟨by omega, ?_⟩
    intro hLeast
    have hWrap := hEq (by omega)
    constructor
    · rw [hNew, hWrap, ← hLines, unlines_lines]
    · intro x hx
      have hAt : (lines t)[k]? = some l := by simp [hLines, ← hLength]
      rw [Option.mem_def.1 hx, Option.some_inj] at hAt
      rw [hAt]
      exact hWrap

/-- Wrap the lines of several indices, one after another. -/
def wrapAll (t : Text) (indices : List Nat) : Text :=
  indices.foldl (fun s k => Fix.wrapLineAt k s) t

@[simp] theorem wrapAll_nil (t : Text) : wrapAll t [] = t := rfl

@[simp] theorem wrapAll_cons (t : Text) (k : Nat) (ks : List Nat) :
    wrapAll t (k :: ks) = wrapAll (Fix.wrapLineAt k t) ks := rfl

/-- **Wrapping loses nothing**, wherever the indices point. -/
@[simp] theorem ink_wrapAll (t : Text) (ks : List Nat) : ink (wrapAll t ks) = ink t := by
  induction ks generalizing t with
  | nil => rfl
  | cons k ks ih => rw [wrapAll_cons, ih, ink_wrapLineAt]

/-- **Wrapping tightens**: gaps do not grow, and if they do not shrink, all the
lines that the indices point to were laid out already. -/
theorem gaps_wrapAll_le (t : Text) (ks : List Nat) :
    gaps (wrapAll t ks) ≤ gaps t ∧
      (gaps t ≤ gaps (wrapAll t ks) → wrapAll t ks = t ∧
        ∀ k ∈ ks, ∀ l ∈ (lines t)[k]?, Wrap.wrap Fix.wrapWidth l = l) := by
  induction ks generalizing t with
  | nil => exact ⟨Nat.le_refl _, fun _ => ⟨rfl, by simp⟩⟩
  | cons k ks ih =>
      obtain ⟨hOne, hOneEq⟩ := gaps_wrapLineAt_le k t
      obtain ⟨hRest, hRestEq⟩ := ih (Fix.wrapLineAt k t)
      rw [wrapAll_cons]
      refine ⟨Nat.le_trans hRest hOne, ?_⟩
      intro hLeast
      obtain ⟨hSame, hWrap⟩ := hOneEq (Nat.le_trans hLeast hRest)
      rw [hSame] at hRestEq hLeast ⊢
      obtain ⟨hSameAll, hWrapAll⟩ := hRestEq hLeast
      refine ⟨hSameAll, ?_⟩
      intro j hj
      rcases List.mem_cons.1 hj with rfl | hj
      · exact hWrap
      · exact hWrapAll j hj

end CommitLint
