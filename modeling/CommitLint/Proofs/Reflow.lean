import CommitLint.Proofs.Convergence
import CommitLint.Proofs.Layout

/-!
# Which lines a pass wraps

A pass counts the lines that are too long before it changes anything, and wraps
at the indices that it counted, from top to bottom.  By then an empty line may
stand below the header, and every line that is wrapped pushes the ones below it
down.  So an index need not point to the line any more that it was counted for.

`reflow` tells from the result which lines are wrapped: a line is wrapped if the
index at which it begins in the result is among the counted ones.  This is what
wrapping at one index after another does (`lines_wrapAll`), because the indices
ascend and lines that have just been laid out are not changed by another wrap.

As long as no counted line pushes another counted line down, the lines that are
wrapped are the counted ones (`reflow_eq_rewrap`).  An empty line that a pass
puts below the header is enough to break this.

Main results: `lines_wrapAll`, `tail_lines_fixAll`.
-/

namespace CommitLint

open Text

/-! ## Lines that are wrapped at their place in the result -/

/-- Wrap those of the lines that begin, in the result, at an index among the
targets.  The first line begins at a given index. -/
def reflow (targets : List Nat) : Nat → List Text → List Text
  | _, [] => []
  | place, l :: ls =>
    let piece := if place ∈ targets then lines (Wrap.wrap Fix.wrapWidth l) else [l]
    piece ++ reflow targets (place + piece.length) ls

/-- Wrap those of the lines that the targets were counted for.  The first line
has a given index. -/
def rewrap (targets : List Nat) : Nat → List Text → List Text
  | _, [] => []
  | index, l :: ls =>
    (if index ∈ targets then lines (Wrap.wrap Fix.wrapWidth l) else [l]) ++
      rewrap targets (index + 1) ls

theorem reflow_cons_of_mem {targets : List Nat} {place : Nat} (hMem : place ∈ targets) (l : Text)
    (ls : List Text) :
    reflow targets place (l :: ls) = lines (Wrap.wrap Fix.wrapWidth l) ++
      reflow targets (place + (lines (Wrap.wrap Fix.wrapWidth l)).length) ls := by
  rw [reflow, if_pos hMem]

theorem reflow_cons_of_not_mem {targets : List Nat} {place : Nat} (hNot : place ∉ targets)
    (l : Text) (ls : List Text) :
    reflow targets place (l :: ls) = l :: reflow targets (place + 1) ls := by
  rw [reflow, if_neg hNot]
  rfl

/-- No target is left for the lines below all of them. -/
theorem reflow_of_forall_lt {targets : List Nat} {place : Nat} (h : ∀ k ∈ targets, k < place)
    (ls : List Text) : reflow targets place ls = ls := by
  induction ls generalizing place with
  | nil => rfl
  | cons l ls ih =>
      have hNot : place ∉ targets := fun hMem => Nat.lt_irrefl place (h place hMem)
      rw [reflow_cons_of_not_mem hNot, ih fun k hk => Nat.lt_succ_of_lt (h k hk)]

theorem rewrap_of_forall_lt {targets : List Nat} {index : Nat} (h : ∀ k ∈ targets, k < index)
    (ls : List Text) : rewrap targets index ls = ls := by
  induction ls generalizing index with
  | nil => rfl
  | cons l ls ih =>
      have hNot : index ∉ targets := fun hMem => Nat.lt_irrefl index (h index hMem)
      rw [rewrap, if_neg hNot, ih fun k hk => Nat.lt_succ_of_lt (h k hk)]
      rfl

/-- An index above the first line is nowhere in the result. -/
theorem reflow_cons_target {k place : Nat} (h : k < place) (targets : List Nat)
    (ls : List Text) : reflow (k :: targets) place ls = reflow targets place ls := by
  induction ls generalizing place with
  | nil => rfl
  | cons l ls ih =>
      have hNe : place ≠ k := by omega
      by_cases hMem : place ∈ targets
      · rw [reflow_cons_of_mem hMem, reflow_cons_of_mem (List.mem_cons_of_mem k hMem),
          ih (by omega)]
      · have hNot : place ∉ k :: targets := by simp [hNe, hMem]
        rw [reflow_cons_of_not_mem hMem, reflow_cons_of_not_mem hNot, ih (by omega)]

/-- Lines that are laid out stay, wherever they are. -/
theorem reflow_append {xs : List Text}
    (hLaid : ∀ x ∈ xs, lines (Wrap.wrap Fix.wrapWidth x) = [x]) (targets : List Nat)
    (place : Nat) (ls : List Text) :
    reflow targets place (xs ++ ls) = xs ++ reflow targets (place + xs.length) ls := by
  induction xs generalizing place with
  | nil => rfl
  | cons x xs ih =>
      have hTail := ih (fun y hy => hLaid y (by simp [hy])) (place + 1)
      have hLength : place + 1 + xs.length = place + (x :: xs).length := by
        rw [List.length_cons]
        omega
      rw [hLength] at hTail
      by_cases hMem : place ∈ targets
      · rw [List.cons_append, reflow_cons_of_mem hMem, hLaid x (by simp)]
        show x :: reflow targets (place + 1) (xs ++ ls) = _
        rw [hTail]
        rfl
      · rw [List.cons_append, reflow_cons_of_not_mem hMem, hTail]
        rfl

/-! ## Wrapping at one index after another -/

/-- **One index more**: to wrap at an index and go on with later ones is to go
over the lines once with all of them. -/
theorem reflow_rewrapAt {k : Nat} {targets : List Nat} (hLater : ∀ j ∈ targets, k < j)
    (place n : Nat) (hPlace : place + n = k) (ls : List Text) :
    reflow targets place (rewrapAt n ls) = reflow (k :: targets) place ls := by
  induction ls generalizing place n with
  | nil => simp [rewrapAt, reflow]
  | cons l ls ih =>
      cases n with
      | zero =>
          have hLaid : ∀ x ∈ lines (Wrap.wrap Fix.wrapWidth l),
              lines (Wrap.wrap Fix.wrapWidth x) = [x] := fun x hx => Wrap.lines_wrap_of_mem hx
          have hSome := List.length_pos_iff.2 (lines_ne_nil (Wrap.wrap Fix.wrapWidth l))
          have hHere : place ∈ k :: targets := by simp [← hPlace]
          rw [rewrapAt, reflow_append hLaid, reflow_cons_of_mem hHere,
            reflow_cons_target (by omega)]
      | succ n =>
          have hNot : place ∉ targets := by
            intro hMem
            have hBound := hLater place hMem
            omega
          have hNotAny : place ∉ k :: targets := by
            intro hMem
            rcases List.mem_cons.1 hMem with hEq | hMem
            · omega
            · exact hNot hMem
          rw [rewrapAt, reflow_cons_of_not_mem hNot, reflow_cons_of_not_mem hNotAny,
            ih (place + 1) n (by omega)]

/-- **Wrapping at ascending indices** wraps the lines that begin there in the
result. -/
theorem lines_wrapAll {ks : List Nat} (hAscend : ks.Pairwise (· < ·)) (t : Text) :
    lines (wrapAll t ks) = reflow ks 0 (lines t) := by
  induction ks generalizing t with
  | nil => rw [wrapAll_nil, reflow_of_forall_lt (by simp)]
  | cons k ks ih =>
      obtain ⟨hLater, hRest⟩ := List.pairwise_cons.1 hAscend
      rw [wrapAll_cons, ih hRest, lines_wrapLineAt,
        reflow_rewrapAt hLater 0 k (Nat.zero_add k)]

/-- Indices keep pointing to their lines as long as no line that is wrapped
above another one takes more than one line. -/
theorem reflow_eq_rewrap {targets : List Nat} {place : Nat} {ls : List Text}
    (hAlone : ∀ n l, ls[n]? = some l → place + n ∈ targets →
      (∃ k ∈ targets, place + n < k) → (lines (Wrap.wrap Fix.wrapWidth l)).length = 1) :
    reflow targets place ls = rewrap targets place ls := by
  induction ls generalizing place with
  | nil => rfl
  | cons l ls ih =>
      have hTail : reflow targets (place + 1) ls = rewrap targets (place + 1) ls := by
        apply ih
        intro n m hLine
        have hNext := hAlone (n + 1) m (by simpa using hLine)
        rwa [Nat.add_comm n 1, ← Nat.add_assoc] at hNext
      by_cases hMem : place ∈ targets
      · rw [reflow_cons_of_mem hMem, rewrap, if_pos hMem, List.append_cancel_left_eq]
        by_cases hLast : ∃ k ∈ targets, place < k
        · rw [hAlone 0 l (by simp) hMem hLast, hTail]
        · -- with no target left below, the place of the rest does not matter
          have hAbove : ∀ k ∈ targets, k < place + 1 := by
            intro k hk
            by_contra hBelow
            exact hLast ⟨k, hk, by omega⟩
          have hSome := List.length_pos_iff.2 (lines_ne_nil (Wrap.wrap Fix.wrapWidth l))
          have hFar : ∀ k ∈ targets,
              k < place + (lines (Wrap.wrap Fix.wrapWidth l)).length := by
            intro k hk
            have hNear := hAbove k hk
            omega
          rw [reflow_of_forall_lt hFar, rewrap_of_forall_lt hAbove]
      · rw [reflow_cons_of_not_mem hMem, rewrap, if_neg hMem, hTail]
        rfl

/-! ## The lines that issues ask to wrap -/

/-- The index of the line that a fix wraps. -/
def Fix.lineIndex? : Fix → Option Nat
  | wrapLine index => some index
  | _ => none

/-- The index of the line that an issue is about. -/
def Issue.lineIndex? (i : Issue) : Option Nat := i.fix.bind Fix.lineIndex?

/-- The indices of the lines that issues of R9 report as too long. -/
def longIndices (issues : List Issue) : List Nat :=
  (issues.filter fun i => i.rule == .lineLength).filterMap Issue.lineIndex?

theorem filterMap_lineIndex?_longLines (n : Nat) (ls : List Text) :
    (Rule.longLines n ls).filterMap Issue.lineIndex? = longFrom n ls := by
  induction ls generalizing n with
  | nil => rfl
  | cons l ls ih =>
      rw [Rule.longLines, List.filterMap_append, ih, longFrom]
      by_cases hLong : Rule.lineWarn < l.length
      · cases hIssue : Rule.longLine? n l with
        | none =>
            have hShort := (Rule.longLine?_eq_none_iff n l).1 hIssue
            omega
        | some i =>
            have hFix := (Rule.of_mem_longLine? hIssue).2
            rw [if_pos hLong]
            simp [Issue.lineIndex?, hFix, Fix.lineIndex?]
      · rw [if_neg hLong, (Rule.longLine?_eq_none_iff n l).2 (by omega)]
        rfl

/-- The issues of a message report its long lines, in order. -/
theorem Message.longIndices_issues (m : Message) : longIndices m.issues = m.long := by
  have hOthers : (m.issues.filter fun i => i.rule != .lineLength).filter
      (fun i => i.rule == .lineLength) = [] := by
    rw [List.filter_eq_nil_iff]
    intro i hi
    simpa using (List.mem_filter.1 hi).2
  have hOwn : (Rule.check .lineLength m).filter (fun i => i.rule == .lineLength) =
      Rule.check .lineLength m := by
    rw [List.filter_eq_self]
    intro i hi
    rw [Rule.rule_of_mem_check hi]
    rfl
  rw [m.issues_eq_append, longIndices, List.filter_append, hOthers, hOwn, List.nil_append]
  exact filterMap_lineIndex?_longLines 0 m.lines

/-! ## The lines after a pass -/

/-- A pass without a decision mends the header, and reflows it and the lines
below it. -/
theorem lines_fixAll {t : Text} (hInk : blank t = false) :
    lines (fixAll .undecided t) =
      reflow (longIndices (lint t)) 0
        ((Message.reading t).mended :: (Message.reading t).below) := by
  have hAscend : (Message.reading t).long.Pairwise (· < ·) := pairwise_longFrom 0 _
  rw [fixAll, Message.normalize, lint_trim, lint_eq_issues hInk, repairAll_undecided,
    lines_wrapAll hAscend, lines_before_wrapping, Message.longIndices_issues]

/-- A short header keeps its place, and so does an empty line that is put below
it. -/
theorem tail_lines_fixAll_of_short {t : Text} (hInk : blank t = false)
    (hHeader : (firstLine (trim t)).length ≤ Rule.lineWarn) :
    (lines (fixAll .undecided t)).tail =
      if selects (lint t) .blankLine then
        [] :: reflow (longIndices (lint t)) 2 (lines (trim t)).tail
      else reflow (longIndices (lint t)) 1 (lines (trim t)).tail := by
  have hIndices : longIndices (lint t) = (Message.reading t).long := by
    rw [lint_eq_issues hInk, Message.longIndices_issues]
  have hShort : 0 ∉ longIndices (lint t) := by
    have hLines : (Message.reading t).lines =
        (Message.reading t).header :: (Message.reading t).lines.tail := Message.lines_trim t
    have hFits : ¬ Rule.lineWarn < (Message.reading t).header.length := Nat.not_lt.2 hHeader
    intro hMem
    rw [hIndices, Message.long, hLines, longFrom, if_neg hFits] at hMem
    have hPositive := le_of_mem_longFrom hMem
    omega
  have hCrowd : selects (lint t) .blankLine = Message.crowdsHeader (Message.reading t).lines := by
    rw [lint_eq_issues hInk, Message.selects_blankLine]
  rw [lines_fixAll hInk, reflow_cons_of_not_mem hShort, List.tail_cons, hCrowd, Message.below]
  by_cases hCrowded : Message.crowdsHeader (Message.reading t).lines = true
  · -- the line that was put in is empty before and after wrapping
    have hEmpty : ∀ x ∈ [([] : Text)], lines (Wrap.wrap Fix.wrapWidth x) = [x] := by
      intro x hx
      rw [List.mem_singleton.1 hx]
      rfl
    rw [if_pos hCrowded, if_pos hCrowded]
    exact reflow_append hEmpty _ _ _
  · rw [if_neg hCrowded, if_neg hCrowded]
    rfl

/--
**The lines below a short header**: a pass without a decision puts an empty line
below the header if that is reported, and of the lines that follow it wraps those
that begin, in the result, at an index that was reported as too long.  All other
lines stay as they are.  If nothing is put below the header, and each reported
line above another reported one takes one line, these are the reported lines.
-/
theorem tail_lines_fixAll (t : Text) (hInk : blank t = false)
    (hHeader : (firstLine (trim t)).length ≤ 75) :
    let long := longIndices (lint t)
    let below := (lines (trim t)).tail
    (lines (fixAll .undecided t)).tail =
        (if selects (lint t) .blankLine then [] :: reflow long 2 below
          else reflow long 1 below) ∧
      (selects (lint t) .blankLine = false →
        (∀ n l, below[n]? = some l → 1 + n ∈ long → (∃ k ∈ long, 1 + n < k) →
          (lines (Wrap.wrap Fix.wrapWidth l)).length = 1) →
        (lines (fixAll .undecided t)).tail = rewrap long 1 below) := by
  intro long below
  have hTail := tail_lines_fixAll_of_short hInk hHeader
  refine ⟨hTail, ?_⟩
  intro hSeparate hAlone
  rw [hTail, hSeparate, if_neg (by simp)]
  exact reflow_eq_rewrap hAlone

/-- Two long lines: the wrapped first one pushes the second one down, which then
stays. -/
theorem tail_lines_fixAll_two_long :
    let l : Text := Wrap.joined (List.replicate 20 "word".toList)
    let t : Text := unlines ["feat: x".toList, [], l, l]
    longIndices (lint t) = [2, 3] ∧
      (lines (fixAll .undecided t)).tail =
        [] :: (lines (Wrap.wrap Fix.wrapWidth l) ++ [l]) := by
  intro l t
  have hIndices : longIndices (lint t) = [2, 3] := by decide +kernel
  refine ⟨hIndices, ?_⟩
  rw [(tail_lines_fixAll t (by decide +kernel) (by decide +kernel)).1, hIndices]
  decide +kernel

/-- A pass does not wrap the lines that were counted: below a crowded header the
empty line is wrapped and the long one stays. -/
theorem tail_lines_fixAll_ne_rewrap :
    let t : Text := unlines ["feat: x".toList, Wrap.joined (List.replicate 20 "word".toList)]
    blank t = false ∧ (firstLine (trim t)).length ≤ 75 ∧
      (lines (fixAll .undecided t)).tail ≠
        (if selects (lint t) .blankLine then [[]] else []) ++
          rewrap (longIndices (lint t)) 1 (lines (trim t)).tail := by
  decide +kernel

end CommitLint
