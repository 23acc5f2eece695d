import CommitLint.Proofs.SavedSettings

/-!
# Log files stay below the working directory

Whether a log file may be used is decided on its text: it is safe if it does not
begin with a slash and holds neither two periods in a row nor a backslash.  What is
used is the path that the text denotes.  A safe text denotes a path that is relative
and never leads up (`staysBelow_of_isSafe`), and such a path leads to a place below the
directory it is followed from (`placeOf_toText`).

The check is made wherever a log file passes: when a configuration is used, when it
is saved, and when it is loaded.  Loading cleans a text first, which can make an
unsafe text of a safe one; so it matters that the cleaned text is what is checked.

Main result: `logFile_stays_below`.
-/

namespace CommitLint

open Text

namespace Text

/-- A text occurs in another one if it is a contiguous part of it. -/
theorem occursIn_iff {part t : Text} : occursIn part t = true ↔ part <:+: t := by
  induction t with
  | nil => simp [occursIn]
  | cons c cs ih =>
      rw [occursIn, Bool.or_eq_true, List.isPrefixOf_iff_prefix, ih, List.infix_cons_iff]

/-- The first piece of a text stands at its beginning. -/
theorem isPrefix_of_pieces {separator : Char} {t p : Text} {ps : List Text}
    (h : pieces separator t = p :: ps) : p <+: t := by
  fun_induction pieces separator t generalizing p ps with
  | case1 => simp_all
  | case2 cs ih =>
      rw [← (List.cons.inj h).1]
      exact List.nil_prefix
  | case3 c cs hc hp ih => exact absurd hp (pieces_ne_nil separator cs)
  | case4 c cs hc q qs hq ih =>
      rw [← (List.cons.inj h).1]
      exact (List.prefix_cons_inj c).2 (ih hq)

/-- The pieces of a text are parts of it. -/
theorem isInfix_of_mem_pieces {separator : Char} {t p : Text} (h : p ∈ pieces separator t) :
    p <:+: t := by
  induction t with
  | nil =>
      obtain rfl := List.mem_singleton.1 h
      exact List.nil_infix
  | cons c cs ih =>
      rw [pieces] at h
      split at h
      · rcases List.mem_cons.1 h with rfl | h
        · exact List.nil_infix
        · exact List.infix_cons (ih h)
      · split at h
        · rename_i hNone
          exact absurd hNone (pieces_ne_nil separator cs)
        · rename_i q qs hSome
          rcases List.mem_cons.1 h with rfl | h
          · exact ((List.prefix_cons_inj c).2 (isPrefix_of_pieces hSome)).isInfix
          · exact List.infix_cons (ih (hSome ▸ List.mem_cons_of_mem _ h))

theorem not_mem_decimal {c : Char} (hDigit : c.isDigit = false) (n : Nat) : c ∉ decimal n := by
  intro h
  rw [Nat.isDigit_of_mem_toDigits (by decide) (by decide) h] at hDigit
  contradiction

/-- What is filled up with zeros is made of digits. -/
theorem not_mem_zeroFill {c : Char} (hDigit : c.isDigit = false) (width n : Nat) :
    c ∉ zeroFill width (decimal n) := by
  intro h
  rcases List.mem_append.1 h with h | h
  · rw [List.eq_of_mem_replicate h] at hDigit
    contradiction
  · exact not_mem_decimal hDigit n h

end Text

namespace Moment

theorem not_mem_date {c : Char} (hDigit : c.isDigit = false) (hHyphen : c ≠ '-') (m : Moment) :
    c ∉ m.date := by
  simp [date, not_mem_decimal hDigit, not_mem_zeroFill hDigit, hHyphen]

theorem not_mem_time {c separator : Char} (hDigit : c.isDigit = false) (hNe : c ≠ separator)
    (m : Moment) : c ∉ m.time separator := by
  simp [time, not_mem_zeroFill hDigit, hNe]

/-- The name of a moment can stand in the name of a file. -/
theorem slash_not_mem_fileStamp (m : Moment) : '/' ∉ m.fileStamp := by
  simp [fileStamp, not_mem_date, not_mem_time]

/-- The name of a moment can stand in a line. -/
theorem newline_not_mem_stamp (m : Moment) : '\n' ∉ m.stamp := by
  simp [stamp, not_mem_date, not_mem_time]

end Moment

namespace Files.Path

/-- A path stays below the directory it is followed from: it does not begin at the root, and no
part of it leads up. -/
def StaysBelow (p : Path) : Prop := p.absolute = false ∧ up ∉ p.parts

theorem isSafe_iff {t : Text} :
    isSafe t = true ↔ t ≠ [] ∧ ¬ up <:+: t ∧ t.head? ≠ some '/' ∧ '\x5c' ∉ t := by
  simp [isSafe, ← occursIn_iff, and_assoc]

/-- A safe text denotes a path that stays below. -/
theorem staysBelow_of_isSafe {t : Text} (h : isSafe t = true) : (ofText t).StaysBelow := by
  refine ⟨absolute_of_isSafe h, fun hMem => ?_⟩
  have hPiece : up ∈ pieces '/' t := (List.mem_filter.1 hMem).1
  exact (isSafe_iff.1 h).2.1 (isInfix_of_mem_pieces hPiece)

/-- A name without a slash is a path of one part. -/
theorem ofText_of_not_mem {t : Text} (h : '/' ∉ t) (hStep : isStep t = true) :
    ofText t = ⟨false, [t]⟩ := by
  have hHead : (t.head? == some '/') = false := by
    rw [beq_eq_false_iff_ne]
    exact fun hHead => h (List.mem_of_mem_head? hHead)
  simp [ofText, hHead, pieces_eq_singleton h, hStep]

end Files.Path

namespace Files

/-- Steps that neither stay nor lead up lead down, one after the other. -/
theorem foldl_step {steps : List Text} (h : ∀ s ∈ steps, s ≠ [] ∧ s ≠ ['.'] ∧ s ≠ Path.up)
    (base : Base) (names : List Text) :
    steps.foldl Place.step ⟨base, names⟩ = ⟨base, names ++ steps⟩ := by
  induction steps generalizing names with
  | nil => simp
  | cons s steps ih =>
      obtain ⟨hEmpty, hPeriod, hUp⟩ := h s List.mem_cons_self
      have hStep : Place.step ⟨base, names⟩ s = ⟨base, names ++ [s]⟩ := by
        simp [Place.step, Place.child, hEmpty, hPeriod, hUp]
      rw [List.foldl_cons, hStep, ih fun s' hs' => h s' (List.mem_cons_of_mem _ hs'),
        List.append_assoc, List.singleton_append]

/-- A path that stays below leads to a place below the working directory, however it is
followed. -/
theorem placeOf_toText {t : Text} (h : (Path.ofText t).StaysBelow) :
    placeOf (Path.ofText t).toText = ⟨.above 0, (Path.ofText t).parts⟩ := by
  have hParts {s : Text} (hs : s ∈ (Path.ofText t).parts) := Path.of_mem_parts hs
  obtain ⟨hRelative, hUp⟩ := h
  generalize Path.ofText t = p at hParts hRelative hUp ⊢
  obtain ⟨absolute, parts⟩ := p
  obtain rfl : absolute = false := hRelative
  cases parts with
  | nil => rfl
  | cons s steps =>
      have hPieces : pieces '/' (['/'].intercalate (s :: steps)) = s :: steps :=
        pieces_intercalate (by simp) fun s' hs' => (hParts hs').2.2
      have hHead : (['/'].intercalate (s :: steps)).head? = s.head? := by
        obtain ⟨c, cs, rfl⟩ := List.exists_cons_of_ne_nil (hParts List.mem_cons_self).1
        cases steps <;> simp [List.intercalate, List.intersperse]
      have hSlash : s.head? ≠ some '/' :=
        fun hFirst => (hParts List.mem_cons_self).2.2 (List.mem_of_mem_head? hFirst)
      have hStart : Place.start (['/'].intercalate (s :: steps)) = ⟨.above 0, []⟩ := by
        rw [Place.start, hHead, if_neg hSlash]
        rfl
      show (pieces '/' (['/'].intercalate (s :: steps))).foldl Place.step
        (.start (['/'].intercalate (s :: steps))) = _
      rw [hPieces, hStart, foldl_step, List.nil_append]
      intro s' hs'
      obtain ⟨hEmpty, hPeriod, -⟩ := hParts hs'
      exact ⟨hEmpty, hPeriod, fun hEq => hUp (hEq ▸ hs')⟩

end Files

namespace Config

/-- The log file of a configuration, if there is one, stays below the working directory. -/
theorem staysBelow_logPath (c : Config) (now : Moment) {p : Files.Path}
    (h : (c.logPath now).1 = some p) :
    p.StaysBelow ∧ Files.placeOf p.toText = ⟨.above 0, p.parts⟩ := by
  -- Either way the path is read from a text.
  suffices hText : ∃ t, p = Files.Path.ofText t ∧ (Files.Path.ofText t).StaysBelow by
    obtain ⟨t, rfl, hBelow⟩ := hText
    exact ⟨hBelow, Files.placeOf_toText hBelow⟩
  unfold logPath at h
  split at h
  · refine ⟨_, (Option.some.inj h).symm, ?_⟩
    rw [Files.Path.ofText_of_not_mem (by simp [now.slash_not_mem_fileStamp]) rfl]
    exact ⟨rfl, by simp [Files.Path.up]⟩
  · split at h
    · contradiction
    · rename_i t hLog
      split at h
      · contradiction
      · split at h
        · rename_i hSafe
          exact ⟨t, (Option.some.inj h).symm, Files.Path.staysBelow_of_isSafe hSafe⟩
        · contradiction

/-! ## What is saved -/

/-- A log file that is saved is empty or safe. -/
theorem safe_of_savableLogFile {c : Config} {t : Text} (h : c.savableLogFile.1 = some t) :
    t = [] ∨ Files.Path.isSafe t = true := by
  unfold savableLogFile at h
  split at h
  · contradiction
  · split at h
    · rename_i hKept
      obtain rfl := Option.some.inj h
      simpa using hKept
    · contradiction

/-- Saving has written the table of the settings, unless it tells that it could not. -/
theorem settingsTable?_save {c : Config} {tree : Files.Tree} {directory : Files.Path}
    {shown : Text} (hSaved : ∀ reason, .unwritable reason ∉ (c.save tree directory shown).2) :
    settingsTable? (c.save tree directory shown).1 directory = some c.savedValues := by
  unfold save at hSaved ⊢
  cases hWrite : tree.write (filePath directory).toText c.toDocument with
  | error f =>
      rw [hWrite] at hSaved
      exact absurd (List.mem_append_right _ List.mem_cons_self) (hSaved (f.message shown))
  | ok tree' =>
      show settingsTable? tree' directory = _
      rw [settingsTable?, Files.Tree.look_write hWrite]
      dsimp only
      rw [read?_toDocument]
      rfl

/--
**Log files stay below the working directory**: whatever the settings of a configuration are,
the log file to use at a moment is none or a path that is relative and no part of which leads
up, so that following it ends below the working directory.  A log file in the table that has
been saved is a text that neither begins with a slash nor holds two periods in a row or a
backslash; and what is loaded from there, if it is not empty, is safe.
-/
theorem logFile_stays_below (c : Config) :
    (∀ (now : Moment) (p : Files.Path), (c.logPath now).1 = some p →
      p.absolute = false ∧ Files.Path.up ∉ p.parts ∧
        Files.placeOf p.toText = ⟨.above 0, p.parts⟩) ∧
    ∀ (tree : Files.Tree) (directory : Files.Path) (shown : Text),
      (∀ reason, .unwritable reason ∉ (c.save tree directory shown).2) →
      (∃ entries, settingsTable? (c.save tree directory shown).1 directory = some entries ∧
        ∀ v, Value.find? "log_file".toList entries = some v →
          ∃ t, v = .text t ∧ t.head? ≠ some '/' ∧ ¬ Files.Path.up <:+: t ∧ '\x5c' ∉ t) ∧
      ∀ h : Host, Silent h.environment → ∀ t,
        (load h (c.save tree directory shown).1 directory).1.logFile = some t → t ≠ [] →
          Files.Path.isSafe t = true := by
  constructor
  · intro now p hPath
    obtain ⟨⟨hRelative, hUp⟩, hPlace⟩ := staysBelow_logPath c now hPath
    exact ⟨hRelative, hUp, hPlace⟩
  intro tree directory shown hSaved
  refine ⟨⟨c.savedValues, settingsTable?_save hSaved, fun v hFind => ?_⟩, ?_⟩
  · obtain ⟨-, -, -, -, hLog⟩ := find?_savedValues c
    rw [hLog] at hFind
    obtain ⟨t, hSavable, rfl⟩ := Option.map_eq_some_iff.1 hFind
    refine ⟨t, rfl, ?_⟩
    rcases safe_of_savableLogFile hSavable with rfl | hSafe
    · exact ⟨by simp, by simp [Files.Path.up], by simp⟩
    · obtain ⟨-, hUp, hSlash, hBackslash⟩ := Files.Path.isSafe_iff.1 hSafe
      exact ⟨hSlash, hUp, hBackslash⟩
  · intro h hSilent t hLog hNe
    rcases isStorable_load hSilent (c.save tree directory shown).1 directory t hLog with
      hEmpty | ⟨hSafe, -⟩
    · exact absurd hEmpty hNe
    · exact hSafe

/-- A log file in a directory of its own, written in a roundabout way. -/
theorem logFile_stays_below_roundabout :
    let c : Config := ⟨false, false, none, false, some "./logs//a.log/".toList⟩
    let tree := Files.Tree.ofFiles []
    let now : Moment := ⟨2024, 1, 2, 3, 4, 5⟩
    let h := Host.calm []
    (c.logPath now).1 = some ⟨false, ["logs".toList, "a.log".toList]⟩ ∧
      Files.placeOf "logs/a.log".toList = ⟨.above 0, ["logs".toList, "a.log".toList]⟩ ∧
      (∀ reason, .unwritable reason ∉ (c.save tree ⟨false, []⟩ []).2) ∧
      (load h (c.save tree ⟨false, []⟩ []).1 ⟨false, []⟩).1.logFile = c.logFile ∧
      Files.Path.isSafe "./logs//a.log/".toList = true := by
  intro c tree now h
  have hSaved : ∀ reason, .unwritable reason ∉ (c.save tree ⟨false, []⟩ []).2 := by
    intro reason
    exact List.not_mem_nil
  have hPath : (c.logPath now).1 = some ⟨false, ["logs".toList, "a.log".toList]⟩ := by
    decide +kernel
  have hLoaded : (load h (c.save tree ⟨false, []⟩ []).1 ⟨false, []⟩).1.logFile = c.logFile := by
    decide +kernel
  obtain ⟨hUse, hSave⟩ := logFile_stays_below c
  obtain ⟨-, hLoad⟩ := hSave tree ⟨false, []⟩ [] hSaved
  exact ⟨hPath, (hUse now _ hPath).2.2, hSaved, hLoaded,
    hLoad h (fun _ _ => rfl) _ hLoaded (by decide)⟩

end Config

end CommitLint
