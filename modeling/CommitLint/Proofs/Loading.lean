import CommitLint.Proofs.Precedence
import CommitLint.Proofs.Steps

/-!
# Loading and saving settings in a run

Loading uses the file of a directory as a whole or not at all.  It comes to an end
unless the path of the file is too long, which shows before anything else is done, or
something cannot be told: that the file is left aside, or what the environment gives
where no file is used.  What there is to tell about a file that is used is told under
the protection of the use; if it cannot be told, the file is left aside.

Saving writes the lines of a document one by one.  If none of them is refused, this comes to
what saving the document as a whole gives (`exec_saveSettings`).

Main result: `loadSettings_all_or_nothing`.
-/

namespace CommitLint.Command

open Text Step Config

variable {w : World} {directory : Files.Path} {s : Shell}

/-! ## The steps -/

theorem exec_findSettings (w : World) (directory : Files.Path) (s : Shell) :
    exec (findSettings w directory) s =
      if isTooLong w.toHost s.tree (filePath directory) then
        (.error (.failure (.files .nameTooLong (w.shown (filePath directory)))), s)
      else (.ok (s.tree.look (filePath directory).toText), s) := by
  rw [findSettings, exec_bind, exec_get]
  dsimp only
  split <;> rfl

theorem still_findSettings (w : World) (directory : Files.Path) :
    Still (findSettings w directory) := by
  intro s
  rw [exec_findSettings]
  split <;> rfl

/-- **Loading in a run**: what is loaded comes out if the path is short enough and all
that there is to tell is told. -/
theorem exec_loadSettings (w : World) (directory : Files.Path) (s : Shell) :
    exec (loadSettings w directory) s =
      if isTooLong w.toHost s.tree (filePath directory) then
        (.error (.failure (.files .nameTooLong (w.shown (filePath directory)))), s)
      else
        let (c, notices) := load w.toHost s.tree directory
        match w.untold? notices with
        | none => (.ok c, { s with notices := s.notices ++ notices })
        | some why =>
          (.error (.failure (.encoding why)),
            { s with notices := s.notices ++ w.told notices }) := by
  rw [loadSettings, exec_bind, exec_findSettings]
  cases isTooLong w.toHost s.tree (filePath directory) with
  | true => rfl
  | false =>
      rw [if_neg Bool.false_ne_true, if_neg Bool.false_ne_true]
      dsimp only
      rw [exec_bind, exec_get]
      dsimp only
      rw [exec_bind, exec_tell]
      cases w.untold? (load w.toHost s.tree directory).2 <;> rfl

/-- Loading comes to an end. -/
def Loads (w : World) (tree : Files.Tree) (directory : Files.Path) : Prop :=
  isTooLong w.toHost tree (filePath directory) = false ∧
    w.untold? (load w.toHost tree directory).2 = none

theorem exec_loadSettings_of_loads (h : Loads w s.tree directory) :
    exec (loadSettings w directory) s =
      (.ok (load w.toHost s.tree directory).1,
        { s with notices := s.notices ++ (load w.toHost s.tree directory).2 }) := by
  obtain ⟨hShort, hTold⟩ := h
  rw [exec_loadSettings, if_neg (by simp [hShort])]
  dsimp only
  rw [hTold]

theorem exec_loadSettings_of_not_loads (h : ¬ Loads w s.tree directory) :
    ∃ stop s', exec (loadSettings w directory) s = (.error stop, s') := by
  rw [exec_loadSettings]
  split
  · exact ⟨_, _, rfl⟩
  · rename_i hShort
    dsimp only
    cases hUntold : w.untold? (load w.toHost s.tree directory).2 with
    | none => exact absurd ⟨by simpa using hShort, hUntold⟩ h
    | some why => exact ⟨_, _, rfl⟩

theorem exec_loadSettings_eq_ok {c : Config} {s' : Shell}
    (h : exec (loadSettings w directory) s = (.ok c, s')) :
    Loads w s.tree directory ∧ c = (load w.toHost s.tree directory).1 ∧
      s' = { s with notices := s.notices ++ (load w.toHost s.tree directory).2 } := by
  by_cases hLoads : Loads w s.tree directory
  · rw [exec_loadSettings_of_loads hLoads, Prod.mk.injEq, Except.ok.injEq] at h
    exact ⟨hLoads, h.1.symm, h.2.symm⟩
  · obtain ⟨stop, t, hStop⟩ := exec_loadSettings_of_not_loads hLoads
    simp [hStop] at h

/-- Nothing is loaded unless loading comes to an end. -/
theorem loads_of_fst {c : Config} (h : (exec (loadSettings w directory) s).1 = .ok c) :
    Loads w s.tree directory := (exec_loadSettings_eq_ok (Prod.ext h rfl)).1

theorem still_loadSettings (w : World) (directory : Files.Path) :
    Still (loadSettings w directory) := by
  intro s
  rw [exec_loadSettings]
  split
  · rfl
  · dsimp only
    cases w.untold? (load w.toHost s.tree directory).2 <;> rfl

/-! ## All or nothing -/

/-- A configuration takes from a table every setting whose name stands there, and all others
from another configuration. -/
def TakesFrom (entries : List (Text × Value)) (d c : Config) : Prop :=
  ∀ s : Setting,
    match Value.find? s.key entries with
    | some v => s.ofValue? v = some (s.get c)
    | none => s.get c = s.get d

theorem takesFrom_of_settles {h : Host} {entries : List (Text × Value)} {d : Config}
    {loaded : Config × List Notice} (hBuild : (build h.environment []).1 = .ok d)
    (hSettles : Settles h entries loaded) : TakesFrom entries d loaded.1 := by
  intro s
  have hOwn := hSettles.1 s
  unfold Setting.settled? at hOwn
  cases hEntry : Value.find? s.key entries with
  | some v =>
      rw [hEntry] at hOwn
      exact hOwn
  | none =>
      rw [hEntry] at hOwn
      dsimp only at hOwn ⊢
      rw [← Option.some.inj hOwn]
      exact (get_of_build_nil hBuild s).symm

/-- What there is to tell where no file is used: why it is left aside, if there is one, and
what the environment gives. -/
def IsFallback (file : Option Files.Entry) (more fallback : List Notice) : Prop :=
  match file with
  | none => fallback = more
  | some _ => ∃ why, fallback = .unreadable why :: more

theorem isFallback_of_absent {file : Option Files.Entry} (h : file = none)
    (more : List Notice) : IsFallback file more more := by
  subst h
  rfl

theorem isFallback_of_present {file : Option Files.Entry} (h : file ≠ none) (why : Text)
    (more : List Notice) : IsFallback file more (.unreadable why :: more) := by
  obtain ⟨entry, rfl⟩ := Option.ne_none_iff_exists'.1 h
  exact ⟨why, rfl⟩

/-- What an attempt to load comes to where no file is used: the configuration of the
environment if all is told that there is to tell, and a stop if it is not. -/
def FallsBack (w : World) (d : Config) (fallback : List Notice)
    (found : Except Stop Config × Shell) : Prop :=
  (w.untold? fallback = none → found.1 = .ok d) ∧
    (w.untold? fallback ≠ none → ∃ stop, found.1 = .error stop)

theorem untold?_append {h : Host} {told more : List Notice} (hTold : h.untold? told = none) :
    h.untold? (told ++ more) = h.untold? more := by
  rw [Host.untold?, List.findSome?_append, ← Host.untold?, hTold, Option.none_or, ← Host.untold?]

theorem fallsBack_of_untold?_eq {d : Config} {fallback : List Notice}
    (hShort : isTooLong w.toHost s.tree (filePath directory) = false)
    (hSame : (load w.toHost s.tree directory).1 = d)
    (hFallback : w.untold? (load w.toHost s.tree directory).2 = w.untold? fallback) :
    FallsBack w d fallback (exec (loadSettings w directory) s) := by
  refine ⟨fun hTold => ?_, fun hUntold => ?_⟩
  · rw [exec_loadSettings_of_loads ⟨hShort, hFallback.trans hTold⟩, hSame]
  · have hNot : ¬ Loads w s.tree directory := fun hLoads => hUntold (hFallback ▸ hLoads.2)
    obtain ⟨stop, s', hStop⟩ := exec_loadSettings_of_not_loads hNot
    exact ⟨stop, congrArg Prod.fst hStop⟩

/--
**All or nothing**: the environment alone always gives a configuration, whatever its variables
hold.  A path that is too long stops the attempt to load.  Otherwise, if the configuration file
can be read and has a table of settings, if every setting in it can be used, and if what there
is to tell about them can be told, then all of them are used, the others come from the
environment, and that is what is loaded.  In every other case, and so if a single setting of the
file cannot be used, exactly the configuration of the environment is loaded if all can be told
that there is to tell about it; if not, the attempt stops, and nothing is loaded.  Where the
standard output takes every text, it never stops for this reason.
-/
theorem loadSettings_all_or_nothing (w : World) (directory : Files.Path) (s : Shell) :
    let file := s.tree.look (filePath directory).toText
    let found := exec (loadSettings w directory) s
    ∃ d more, build w.environment [] = (.ok d, more) ∧
      (isTooLong w.toHost s.tree (filePath directory) = true → ∃ stop, found.1 = .error stop) ∧
      (isTooLong w.toHost s.tree (filePath directory) = false →
        ((∃ entries c, settingsTable? s.tree directory = some entries ∧ TakesFrom entries d c ∧
            found.1 = .ok c) ∨
          ((∀ entries, settingsTable? s.tree directory = some entries →
              (∃ t : Setting, ∃ v, Value.find? t.key entries = some v ∧ t.ofValue? v = none) ∨
                w.untold? (tableNotices w.environment entries) ≠ none) ∧
            ∃ fallback, IsFallback file more fallback ∧ FallsBack w d fallback found)) ∧
        ((∀ c, w.output.writes (w.codePoint c) = true) → ∃ c, found.1 = .ok c)) := by
  intro file found
  obtain ⟨d, more, hBuild, hDefaults⟩ := ofDefaults_eq w.environment
  refine ⟨d, more, hBuild, fun hLong => ?_, fun hShort => ⟨?_, fun hTakes => ?_⟩⟩
  · have hNot : ¬ Loads w s.tree directory := fun hLoads => by simp [hLoads.1] at hLong
    obtain ⟨stop, s', hStop⟩ := exec_loadSettings_of_not_loads hNot
    exact ⟨stop, congrArg Prod.fst hStop⟩
  · rcases load_cases w.toHost s.tree directory with
      ⟨entries, hTable, hSettles⟩ | ⟨hLook, hSame⟩ | ⟨hLook, hUseless, hSame, hNotices⟩
    · refine Or.inl ⟨entries, _, hTable,
        takesFrom_of_settles (congrArg Prod.fst hBuild) hSettles, ?_⟩
      exact congrArg Prod.fst (exec_loadSettings_of_loads ⟨hShort, hSettles.2.2⟩)
    · refine Or.inr ⟨fun entries hTable => ?_, more, isFallback_of_absent hLook more, ?_⟩
      · simp [settingsTable?, hLook] at hTable
      · rw [hDefaults] at hSame
        exact fallsBack_of_untold?_eq hShort (by rw [hSame]) (by rw [hSame])
    · obtain ⟨told, why, hNotices, hTold⟩ := hNotices
      rw [hDefaults] at hSame hNotices
      refine Or.inr ⟨fun entries hTable => ?_, .unreadable why :: more,
        isFallback_of_present hLook why more, ?_⟩
      · refine (hUseless entries hTable).imp_left ?_
        rintro ⟨t, ht⟩
        exact ⟨t, settled?_eq_none_iff.1 ht⟩
      · exact fallsBack_of_untold?_eq hShort hSame (by rw [hNotices, untold?_append hTold])
  · have hTold : w.untold? (load w.toHost s.tree directory).2 = none := by
      refine Host.untold?_eq_none_iff.2 fun n _ => ?_
      refine Encoding.refusal?_eq_none_iff.2 fun k hk => ?_
      obtain ⟨c, -, rfl⟩ := List.mem_map.1 hk
      exact hTakes c
    exact ⟨_, congrArg Prod.fst (exec_loadSettings_of_loads ⟨hShort, hTold⟩)⟩

/-- A word that is no truth value, beside settings that could be used. -/
theorem loadSettings_all_or_nothing_wrong_word :
    let w := World.calm [("GIT_SMART_LINT_ALWAYS_LOG".toList, "On".toList)] ⟨2024, 1, 2, 3, 4, 5⟩
    let es := [("default_type".toList, Toml.Scalar.text "FIX".toList),
      ("auto_fix".toList, Toml.Scalar.bool true),
      ("strict".toList, Toml.Scalar.text "maybe".toList)]
    let tree := Files.Tree.ofFiles [(fileName, Toml.writeTable sectionName es)]
    isTooLong w.toHost tree (filePath ⟨false, []⟩) = false ∧
      (∀ c, w.output.writes (w.codePoint c) = true) ∧
      (exec (loadSettings w ⟨false, []⟩) (Shell.start w tree)).1 =
        .ok ⟨false, false, none, true, none⟩ := by
  intro w es tree
  have hShort : isTooLong w.toHost tree (filePath ⟨false, []⟩) = false := by decide +kernel
  have hTakes : ∀ c, w.output.writes (w.codePoint c) = true := Encoding.utf8_writes_toNat
  have hDefaults : (build w.environment []).1 = .ok ⟨false, false, none, true, none⟩ := by
    decide +kernel
  have hTable : settingsTable? tree ⟨false, []⟩ = some (es.map fun e => (e.1, e.2.toValue)) :=
    settingsTable?_of_written rfl (by decide) (by decide)
  have hWord : Setting.ofValue? .strict (.text "maybe".toList) =
      (none : Option (Setting.Kind .strict)) := by decide
  obtain ⟨d, more, hBuild, -, hCases⟩ :=
    loadSettings_all_or_nothing w ⟨false, []⟩ (Shell.start w tree)
  obtain ⟨hCases, hLoads⟩ := hCases hShort
  obtain ⟨c, hc⟩ := hLoads hTakes
  rw [hBuild] at hDefaults
  obtain rfl := Decoded.ok.inj hDefaults
  refine ⟨hShort, hTakes, ?_⟩
  rcases hCases with ⟨entries, c', hEntries, hFrom, -⟩ | ⟨-, fallback, -, hTold, hUntold⟩
  · obtain rfl := Option.some.inj (hTable.symm.trans hEntries)
    have hStrict : Setting.ofValue? .strict (.text "maybe".toList) = some (Setting.get .strict c') :=
      hFrom .strict
    rw [hWord] at hStrict
    cases hStrict
  · by_cases hNone : w.untold? fallback = none
    · exact hTold hNone
    · obtain ⟨stop, hStop⟩ := hUntold hNone
      rw [hc] at hStop
      cases hStop

/-- A directory whose configuration file has too long a path; and a variable with a text that is
no UTF-8, which is told of as the name of no type. -/
theorem loadSettings_stops :
    let w := World.calm [] ⟨2024, 1, 2, 3, 4, 5⟩
    let deep : Files.Path := ⟨false, List.replicate 16 (List.replicate 255 'a')⟩
    let byte := Char.ofNat 0x10F8FF
    let odd : World :=
      { World.calm [("GIT_SMART_LINT_DEFAULT_TYPE".toList, [byte])] ⟨2024, 1, 2, 3, 4, 5⟩ with
        codePoint := fun c => if c = byte then 0xDCFF else c.toNat }
    let tree := Files.Tree.ofFiles []
    (∀ c, (exec (loadSettings w deep) (Shell.start w tree)).1 ≠ .ok c) ∧
      ∀ c, (exec (loadSettings odd ⟨false, []⟩) (Shell.start odd tree)).1 ≠ .ok c := by
  intro w deep byte odd tree
  have hLong : isTooLong w.toHost tree (filePath deep) = true := by decide +kernel
  have hUntold : odd.untold? (load odd.toHost tree ⟨false, []⟩).2 ≠ none := by decide +kernel
  refine ⟨fun c hc => ?_, fun c hc => ?_⟩
  · exact Bool.false_ne_true ((loads_of_fst hc).1.symm.trans hLong)
  · exact hUntold (loads_of_fst hc).2

/-! ## Saving -/

theorem flatten_savedLines (c : Config) : c.savedLines.flatten = c.toDocument := by
  simp [savedLines, toDocument, Toml.writeTable, List.flatMap]

/-- Lines that can be written are written one after the other. -/
theorem exec_writeLines {path content : Text} {tree : Files.Tree}
    (hTree : s.tree = tree.put (Files.placeOf path) content) (hWritable : s.tree.IsWritable path)
    {e : Encoding} {ls : List Text} (hTaken : ∀ l ∈ ls, w.refusal? e l = none) :
    exec (ls.forM (writeOn w e path)) s =
      (.ok (), { s with tree := tree.put (Files.placeOf path) (content ++ ls.flatten) }) := by
  induction ls generalizing s content with
  | nil =>
      rw [List.flatten_nil, List.append_nil, ← hTree]
      rfl
  | cons l ls ih =>
      have hAppend := hWritable.append l
      have hNext : s.tree.put (Files.placeOf path) (s.tree.contentAt (Files.placeOf path) ++ l) =
          tree.put (Files.placeOf path) (content ++ l) := by
        rw [hTree, Files.Tree.contentAt, Files.Tree.lookup_put_self, Files.Tree.put_put]
        rfl
      have hStill := (Files.Tree.append_spec hAppend).2.1
      rw [hNext] at hAppend hStill
      rw [Step.forM_cons, exec_bind, exec_writeOn, hTaken l List.mem_cons_self]
      dsimp only
      rw [exec_change, hAppend]
      dsimp only
      rw [ih rfl hStill fun l' hl' => hTaken l' (List.mem_cons_of_mem _ hl'), List.flatten_cons,
        List.append_assoc]

/-- **Saving in a run** is saving, if all that there is to tell is told and the lines of the
document can be written. -/
theorem exec_saveSettings (c : Config) (directory : Files.Path) (s : Shell)
    (hTold : w.untold? (c.save s.tree directory (w.shown (filePath directory))).2 = none)
    (hTaken : ∀ l ∈ c.savedLines, w.refusal? .utf8 l = none) :
    let saved := c.save s.tree directory (w.shown (filePath directory))
    exec (saveSettings w c directory) s =
      (.ok (), { s with tree := saved.1, notices := s.notices ++ saved.2 }) := by
  unfold save at hTold ⊢
  rw [saveSettings, exec_bind, exec_tell]
  rcases s.tree.write_cases (filePath directory).toText with ⟨f, hFails⟩ | hWrites
  · rw [hFails] at hTold ⊢
    have hFirst : w.untold? c.savableLogFile.2 = none :=
      Host.untold?_eq_none_iff.2 fun n hn =>
        Host.untold?_eq_none_iff.1 hTold n (List.mem_append_left _ hn)
    rw [hFirst]
    dsimp only
    rw [exec_bind, exec_get]
    dsimp only
    rw [hFails, exec_tell, ← untold?_append hFirst, hTold]
    dsimp only
    rw [List.append_assoc]
  · rw [hWrites] at hTold ⊢
    rw [hTold]
    dsimp only
    rw [exec_bind, exec_get]
    dsimp only
    rw [hWrites, exec_bind, exec_modify]
    dsimp only
    have hOpen := Files.Tree.isWritable_of_write (hWrites [])
    rw [exec_writeLines (s := { s with
      notices := s.notices ++ c.savableLogFile.2
      tree := s.tree.put (Files.placeOf (filePath directory).toText) [] }) rfl hOpen hTaken,
      List.nil_append, flatten_savedLines]

end CommitLint.Command
