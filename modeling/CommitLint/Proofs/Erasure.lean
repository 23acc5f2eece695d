import CommitLint.Proofs.SecondColon
import CommitLint.Proofs.WriteBack

/-!
# What a repair leaves of the header

The fixes edit the header one after another, and what they have made of it is trimmed
only afterwards.  A header with a type keeps one under every fix, and a decision for the
type puts one in, so that the first line of the result begins with a letter.  Without
either, the fix for R6 is the only one that takes a character away, and it takes a
period.  So the one header that can be erased is a period and nothing else, and without
a decision it is erased (`firstLine_fixAll_cases`).

What is left then is an empty first line.  Trimming takes it away and the next line that
is not blank becomes the header; if there is none, the whole text is blank, and a run that
writes back puts it in place of the message.  A run that asks questions gets a type from
the user, since a period has none, and does not come to this.

Main result: `Command.fixAll_erases_iff`.
-/

namespace CommitLint

open Text

/-! ## Blank first lines -/

theorem blank_firstLine_wrapLineAt {t : Text} (hBlank : blank (firstLine t) = true) (k : Nat) :
    blank (firstLine (Fix.wrapLineAt k t)) = true := by
  cases k with
  | zero =>
      rw [firstLine_wrapLineAt_zero, wrap_of_blank _ hBlank]
      rfl
  | succ k => rwa [firstLine_wrapLineAt_succ]

theorem blank_firstLine_wrapAll {t : Text} (hBlank : blank (firstLine t) = true)
    (ks : List Nat) : blank (firstLine (wrapAll t ks)) = true := by
  induction ks generalizing t with
  | nil => exact hBlank
  | cons k ks ih => exact ih (blank_firstLine_wrapLineAt hBlank k)

theorem blank_firstLine_eq_false {t : Text} (hHead : ∃ d ∈ (firstLine t).head?, isBlank d = false) :
    blank (firstLine t) = false := by
  obtain ⟨d, hd, hInk⟩ := hHead
  exact not_blank_of_mem (List.mem_of_mem_head? hd) hInk

/-! ## Headers that have a type or get one -/

variable {t : Text} {c : Choices}

/-- A message with a type, or with a decision for it, has a type when it is repaired. -/
theorem hasType_fixAll (hInk : blank t = false)
    (hTyped : (Message.reading t).parts.type ≠ none ∨ c.type ≠ none) : HasType (fixAll c t) := by
  rw [fixAll_eq_repairAll c hInk]
  cases hType : (Message.reading t).parts.type with
  | some found =>
      have hHead : HasType (trim t) := by
        rw [hasType_iff_type, ← Message.parts_reading, hType]
        exact Option.some_ne_none found
      exact (addsColons_repairAll (fun _ hi => hi) hHead).hasType
  | none =>
      have hChoice : c.type ≠ none := hTyped.resolve_left fun hNe => hNe hType
      obtain ⟨k, hk⟩ := Option.ne_none_iff_exists'.1 hChoice
      have hTrim : blank (trim t) = false := by rw [blank_trim]; exact hInk
      have hNone : (Message.reading (trim t)).parts.type = none := by
        rw [Message.parts_eq_of_trim_eq (trim_trim t), hType]
      obtain ⟨x, hx⟩ := putType_of_type_eq_none hTrim hNone k
      apply hasType_repairAll
      rw [repairAll_knownType_of_missing hType, hk, Option.elim_some, hx]
      exact hasType_name_append k _

/-! ## Headers without a type -/

namespace Message

/-- A header without a type loses its final period, if it has one, and nothing else. -/
theorem mended_of_untyped (hType : (reading t).parts.type = none) :
    (reading t).mended <+: (reading t).header ∧
      ink (reading t).mended =
        if (reading t).endsInPeriod then (ink (reading t).header).dropLast
        else ink (reading t).header := by
  have hOpening : Header.opening? (firstLine (trim t)) = none := by
    rwa [type_reading, Option.map_eq_none_iff] at hType
  have hSame := separated_of_no_opening hOpening
  refine ⟨?_, by rw [ink_mended, hSame]⟩
  rw [mended, hSame]
  split
  · exact chopPeriod_isPrefix _
  · exact List.prefix_refl _

/-- A header that is a period has no type, and R6 finds it. -/
theorem of_header_period (hPeriod : ink (reading t).header = ['.']) :
    (reading t).parts.type = none ∧ (reading t).endsInPeriod = true := by
  have hOpening : Header.opening? (reading t).header = none := by
    rw [Header.opening?_eq_none_iff]
    intro d hd
    cases hLetter : isLetter d with
    | false => rfl
    | true =>
        have hMem : d ∈ ink (reading t).header := List.mem_filter.2
          ⟨List.mem_of_mem_head? hd, by simp [Header.isBlank_eq_false_of_isLetter hLetter]⟩
        rw [hPeriod, List.mem_singleton] at hMem
        rw [hMem] at hLetter
        exact absurd hLetter (by decide)
  have hLast : (trim (reading t).header).getLast? = some '.' := by
    rw [getLast?_trim, ← getLast?_ink, hPeriod]
    rfl
  have hParts : (reading t).parts = ⟨none, none, false, nonempty? (trim (reading t).header)⟩ :=
    Header.parse_of_no_opening hOpening
  constructor
  · rw [hParts]
  · rw [endsInPeriod, hParts, getD_nonempty?, hLast]
    rfl

/-- Only a header that is a period has nothing left. -/
theorem blank_mended_iff (hInk : blank t = false) (hType : (reading t).parts.type = none) :
    blank (reading t).mended = true ↔ ink (reading t).header = ['.'] := by
  obtain ⟨-, hMended⟩ := mended_of_untyped hType
  rw [← ink_eq_nil_iff, hMended]
  constructor
  · intro hNil
    split at hNil
    · rename_i hPeriod
      have hLast : (ink (reading t).header).getLast? = some '.' :=
        (getLast?_ink_of_endsInPeriod hPeriod).1
      obtain ⟨s, hs⟩ := List.getLast?_eq_some_iff.1 hLast
      rw [hs, List.dropLast_concat] at hNil
      rw [hs, hNil, List.nil_append]
    · rw [ink_eq_nil_iff, blank_header hInk] at hNil
      cases hNil
  · intro hPeriod
    rw [(of_header_period hPeriod).2, hPeriod]
    rfl

theorem head?_mended (hInk : blank t = false) (hType : (reading t).parts.type = none)
    (hOther : ink (reading t).header ≠ ['.']) :
    ∃ d ∈ (reading t).mended.head?, isBlank d = false := by
  have hNe : (reading t).mended ≠ [] := by
    intro hNil
    have hBlank : blank (reading t).mended = true := by
      rw [hNil]
      rfl
    exact hOther ((blank_mended_iff hInk hType).1 hBlank)
  obtain ⟨d, hd⟩ := Option.isSome_iff_exists.1 (List.isSome_head?.2 hNe)
  obtain ⟨e, he, hHeadInk⟩ := head?_header hInk
  have hSame := mem_head?_of_isPrefix (mended_of_untyped hType).1 hd
  obtain rfl := Option.some.inj ((Option.mem_def.1 hSame).symm.trans he)
  exact ⟨d, hd, hHeadInk⟩

end Message

theorem fixAll_undecided (hInk : blank t = false) :
    fixAll .undecided t =
      wrapAll (unlines ((Message.reading t).mended :: (Message.reading t).below))
        (Message.reading t).long := by
  rw [fixAll_eq_repairAll _ hInk, repairAll_undecided]

theorem Choices.eq_undecided (hNone : c.type = none) : c = .undecided := by
  cases c
  rw [undecided, ← hNone]

/-- The first line of a repaired message: it is blank if the header is a period and no
decision has been made, and otherwise it begins with a character that is not blank. -/
theorem firstLine_fixAll_cases (c : Choices) (hInk : blank t = false) :
    (ink (firstLine (trim t)) = ['.'] ∧ c.type = none) ∧
        blank (firstLine (fixAll c t)) = true ∨
      ¬ (ink (firstLine (trim t)) = ['.'] ∧ c.type = none) ∧
        ∃ d ∈ (firstLine (fixAll c t)).head?, isBlank d = false := by
  by_cases hTyped : (Message.reading t).parts.type ≠ none ∨ c.type ≠ none
  · right
    refine ⟨?_, (hasType_fixAll hInk hTyped).head?_firstLine⟩
    rintro ⟨hPeriod, hNone⟩
    exact hTyped.elim (fun hNe => hNe (Message.of_header_period hPeriod).1) fun hNe => hNe hNone
  · rw [not_or, not_not, not_not] at hTyped
    obtain ⟨hType, hNone⟩ := hTyped
    have hFirst : firstLine (unlines ((Message.reading t).mended :: (Message.reading t).below)) =
        (Message.reading t).mended := by
      refine firstLine_of_lines (lines_unlines (by simp) ?_)
      intro l hl
      rcases List.mem_cons.1 hl with rfl | hl
      · exact Message.newline_not_mem_mended t
      · exact Message.newline_not_mem_below hl
    rw [Choices.eq_undecided hNone, fixAll_undecided hInk]
    by_cases hPeriod : ink (Message.reading t).header = ['.']
    · left
      refine ⟨⟨hPeriod, rfl⟩, blank_firstLine_wrapAll ?_ _⟩
      rw [hFirst]
      exact (Message.blank_mended_iff hInk hType).2 hPeriod
    · right
      refine ⟨fun h => hPeriod h.1, (KeepsHead.wrapAll ?_ _).1⟩
      rw [hFirst]
      exact Message.head?_mended hInk hType hPeriod

theorem blank_firstLine_fixAll_iff (c : Choices) (hInk : blank t = false) :
    blank (firstLine (fixAll c t)) = true ↔ ink (firstLine (trim t)) = ['.'] ∧ c.type = none := by
  rcases firstLine_fixAll_cases c hInk with ⟨hErased, hBlank⟩ | ⟨hKept, hHead⟩
  · exact ⟨fun _ => hErased, fun _ => hBlank⟩
  · rw [blank_firstLine_eq_false hHead]
    exact ⟨fun h => (by cases h), fun h => absurd h hKept⟩

/-- A message that is a period has it for its header and nothing below. -/
theorem Message.ink_eq_period_iff (hInk : blank t = false) :
    ink t = ['.'] ↔
      ink (reading t).header = ['.'] ∧ (reading t).lines.tail.flatMap ink = [] := by
  have hHeader : ink (reading t).header ≠ [] := by
    rw [Ne, ink_eq_nil_iff, blank_header hInk]
    exact Bool.false_ne_true
  rw [← ink_trim, trim_eq_unlines, ink_unlines, List.flatMap_cons, List.append_eq_singleton_iff]
  constructor
  · rintro (⟨hNil, -⟩ | hBoth)
    · exact absurd hNil hHeader
    · exact hBoth
  · exact Or.inr

/-- Nothing at all is left of a message exactly if it is a period. -/
theorem blank_fixAll_iff (c : Choices) (hInk : blank t = false) :
    blank (fixAll c t) = true ↔ ink t = ['.'] ∧ c.type = none := by
  constructor
  · intro hBlank
    obtain ⟨hPeriod, hNone⟩ := (blank_firstLine_fixAll_iff c hInk).1 (blank_firstLine hBlank)
    refine ⟨(Message.ink_eq_period_iff hInk).2 ⟨hPeriod, ?_⟩, hNone⟩
    rw [Choices.eq_undecided hNone, fixAll_eq_repairAll _ hInk, ← ink_eq_nil_iff,
      ink_repairAll, List.append_eq_nil_iff] at hBlank
    exact hBlank.2
  · rintro ⟨hPeriod, hNone⟩
    obtain ⟨hHeader, hBelow⟩ := (Message.ink_eq_period_iff hInk).1 hPeriod
    have hMended := (Message.blank_mended_iff hInk (Message.of_header_period hHeader).1).2 hHeader
    rw [Choices.eq_undecided hNone, fixAll_eq_repairAll _ hInk, ← ink_eq_nil_iff,
      ink_repairAll, (ink_eq_nil_iff _).2 hMended, hBelow]
    rfl

/-! ## Runs that write back -/

/-- A missing type waits for a decision. -/
theorem requiresChoice_of_missing (hInk : blank t = false)
    (hType : (Message.reading t).parts.type = none) : requiresChoice (lint t) = true := by
  rw [lint_eq_issues hInk, Message.requiresChoice_issues, Rule.check_knownType_of_missing hType]
  rfl

namespace Command

variable {w : World} {tree : Files.Tree} {args : List Text} {inv : Arguments.Invocation}
  {p : Files.Path}

/-- A message that is a period needs a type, so a run that asks questions gets one. -/
theorem Decided.type_eq_none_iff {cfg : Config} {made : Choices} (h : Decided inv cfg t made)
    (hPeriod : ink t = ['.']) :
    made.type = none ↔ inv.interactive = false ∧ cfg.defaultType = none := by
  have hInk : blank t = false := by
    rw [← Bool.not_eq_true, ← ink_eq_nil_iff, hPeriod]
    exact List.cons_ne_nil _ _
  have hHeader := ((Message.ink_eq_period_iff hInk).1 hPeriod).1
  have hRequires := requiresChoice_of_missing hInk (Message.of_header_period hHeader).1
  cases hInteractive : inv.interactive with
  | true => simpa using h.asked hInteractive hRequires
  | false => simp [h.batch hInteractive]

/-- What a run that finishes has written over a message is blank if that was a period and
the run has come to no type. -/
theorem blank_written_iff (hParse : Arguments.parse tree args = .ok inv) (hLints : LintsFile inv p)
    (hWrite : inv.write = true) {content : Text}
    (hContent : tree.files.lookup (Files.placeOf p.toText) = some content)
    (hInk : blank (unifyLineEnds content) = false) {failed : Bool}
    (hFinish : (course w tree args).1 = .ok failed) :
    ∃ written, (run w tree args).tree.files.lookup (Files.placeOf p.toText) = some written ∧
      (blank written = true ↔ ink (unifyLineEnds content) = ['.'] ∧
        inv.interactive = false ∧ chosenType w tree inv = none) := by
  obtain ⟨s, hCourse⟩ := exists_course hFinish
  obtain ⟨content', made, hContent', hDecided, -, hRead, -⟩ :=
    course_decided hLints hWrite hParse hCourse
  obtain rfl : content' = content := Option.some.inj (hContent'.symm.trans hContent)
  have hTree : (run w tree args).tree = s.tree := by
    rw [run_of_course hCourse]
    rfl
  refine ⟨_, hTree ▸ Files.Tree.lookup_of_read hRead, ?_⟩
  rw [blank_append, show blank ['\n'] = true by decide, Bool.and_true, blank_fixAll_iff made hInk,
    ← defaultType_settingsOf]
  exact and_congr_right fun hPeriod => hDecided.type_eq_none_iff hPeriod

/--
**What can be erased**: repairing a message leaves a blank first line exactly if the header
is a period, blank characters aside, and no decision for the type has been made; it leaves
a blank text exactly if the whole message is a period.  Otherwise the first line is, up to
blank characters at its end, the header that is read off the result, so that no line is
promoted.  A run that writes the message back and finishes leaves a blank file exactly if
the message is a period and the run has come to no type, neither from the settings nor from
the user.
-/
theorem fixAll_erases_iff (c : Choices) {t : Text} (hInk : blank t = false) :
    (blank (firstLine (fixAll c t)) = true ↔ ink (firstLine (trim t)) = ['.'] ∧ c.type = none) ∧
      (blank (fixAll c t) = true ↔ ink t = ['.'] ∧ c.type = none) ∧
      (blank (firstLine (fixAll c t)) = false →
        ∃ m gap, Message.parse? (fixAll c t) = some m ∧ blank gap = true ∧
          firstLine (fixAll c t) = m.header ++ gap) ∧
      ∀ (w : World) (tree : Files.Tree) (args : List Text) (inv : Arguments.Invocation)
        (p : Files.Path) (content : Text) (failed : Bool),
        Arguments.parse tree args = .ok inv → LintsFile inv p → inv.write = true →
          tree.files.lookup (Files.placeOf p.toText) = some content →
          unifyLineEnds content = t → (course w tree args).1 = .ok failed →
            ∃ written,
              (run w tree args).tree.files.lookup (Files.placeOf p.toText) = some written ∧
              (blank written = true ↔
                ink t = ['.'] ∧ inv.interactive = false ∧ chosenType w tree inv = none) := by
  refine ⟨blank_firstLine_fixAll_iff c hInk, blank_fixAll_iff c hInk, ?_, ?_⟩
  · intro hKept
    rcases firstLine_fixAll_cases c hInk with ⟨-, hBlank⟩ | ⟨-, hHead⟩
    · rw [hBlank] at hKept
      cases hKept
    · obtain ⟨gap, hGap, hFirst⟩ := firstLine_trim_append hHead
      have hLeft : blank (fixAll c t) = false := by
        rw [← Bool.not_eq_true]
        intro hBlank
        rw [blank_firstLine hBlank] at hKept
        cases hKept
      exact ⟨_, gap, Message.parse?_eq_reading hLeft, hGap, hFirst⟩
  · rintro w tree args inv p content failed hParse hLints hWrite hContent rfl hFinish
    exact blank_written_iff hParse hLints hWrite hContent hInk hFinish

/-- A period above a body: with a decision it stays in the header, and without one it is
erased.  A period alone is written back if a type is given. -/
theorem fixAll_erases_iff_of_period :
    let t : Text := ".\n\nAdd a parser".toList
    let alone : Text := ".\n".toList
    let w := World.calm [] ⟨2024, 1, 2, 3, 4, 5⟩
    let tree := Files.Tree.ofFiles [("msg".toList, ".\r\n".toList)]
    blank t = false ∧ blank alone = false ∧
      blank (firstLine (fixAll .undecided t)) = true ∧
      blank (firstLine (fixAll ⟨some .docs⟩ t)) = false ∧
      (∃ m gap, Message.parse? (fixAll ⟨some .docs⟩ t) = some m ∧ blank gap = true ∧
        firstLine (fixAll ⟨some .docs⟩ t) = m.header ++ gap) ∧
      ∃ written, (run w tree (["msg", "--write", "-t", "docs"].map String.toList)).tree.files.lookup
          (Files.placeOf "msg".toList) = some written ∧ blank written = false := by
  intro t alone w tree
  have hInk : blank t = false := by decide
  have hAlone : blank alone = false := by decide
  obtain ⟨hFirst, -, hHeader, -⟩ := fixAll_erases_iff ⟨some .docs⟩ hInk
  have hKept : blank (firstLine (fixAll ⟨some .docs⟩ t)) = false := by
    rw [← Bool.not_eq_true, hFirst]
    decide
  have hParse : Arguments.parse tree (["msg", "--write", "-t", "docs"].map String.toList) = .ok
      ⟨some ⟨false, ["msg".toList]⟩, none, false, true, some .docs, false, false, false, none,
        ⟨false, []⟩, false, false, false, false⟩ := ok_of_toOption (by decide +kernel)
  obtain ⟨written, hWritten, hBlank⟩ := (fixAll_erases_iff .undecided hAlone).2.2.2 w tree _ _
    ⟨false, ["msg".toList]⟩ ".\r\n".toList true hParse ⟨rfl, rfl, rfl, rfl, rfl, rfl, by decide⟩
    rfl rfl (by decide) (ok_of_toOption (by decide +kernel))
  refine ⟨hInk, hAlone, (fixAll_erases_iff .undecided hInk).1.2 (by decide), hKept, hHeader hKept,
    written, hWritten, ?_⟩
  rw [← Bool.not_eq_true, hBlank]
  decide

/-- The header is erased, and a body line takes its place; a file that holds a period is
written back blank. -/
theorem fixAll_erases_period :
    let t : Text := ".\n\nAdd a parser".toList
    let w := World.calm [] ⟨2024, 1, 2, 3, 4, 5⟩
    let tree := Files.Tree.ofFiles [("msg".toList, ".".toList)]
    blank t = false ∧ fixAll .undecided t = "\n\nAdd a parser".toList ∧
      (Message.parse? (fixAll .undecided t)).map Message.header = some "Add a parser".toList ∧
      (run w tree (["msg", "--write"].map String.toList)).tree.files.lookup
        (Files.placeOf "msg".toList) = some "\n".toList := by
  decide +kernel

end Command

end CommitLint
