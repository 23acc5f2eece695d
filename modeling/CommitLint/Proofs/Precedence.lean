import CommitLint.Config.Lemmas
import CommitLint.Proofs.WrittenTable

/-!
# Where settings come from

A configuration is put together from the configuration file, the environment, and
defaults.  The program works on all settings at once: it cleans the table of the
file in place, drops the names that it does not know, puts the settings of the
environment behind the others, normalizes the default type, and reads the result.
Here every setting is looked at on its own (`Setting`).  What a value in the file
makes of it, and what a variable does, is said directly (`Setting.ofValue?`,
`Setting.ofVariable`), without the steps in between.

The steps are followed for one setting: cleaning (`settingsOf_table`), reading the
merged settings (`build_eq_ok_iff`), and from both the configuration of a document
(`build_settingsOf`).  The file is used if every setting in it can be, and if what there
is to tell about them can be told; it is left aside as a whole otherwise (`load_cases`).

Main result: `load_precedence`.
-/

namespace CommitLint

open Text

/-! ## Outcomes of decoding -/

namespace Decoded

/-- The data, if there are no problems. -/
def toOption {α : Type} : Decoded α → Option α
  | ok a => some a
  | bad _ => none

theorem toOption_eq_some_iff {α : Type} {x : Decoded α} {a : α} :
    x.toOption = some a ↔ x = ok a := by
  cases x <;> simp [toOption]

@[simp] theorem toOption_under {α : Type} (x : Decoded α) (step : Text) :
    (x.under step).toOption = x.toOption := by
  cases x <;> rfl

@[simp] theorem toOption_map {α β : Type} (f : α → β) (x : Decoded α) :
    (x.map f).toOption = x.toOption.map f := by
  cases x <;> rfl

end Decoded

/-! ## Settings one by one -/

/-- The five settings. -/
inductive Setting where
  | strict
  | autoFix
  | defaultType
  | alwaysLog
  | logFile
  deriving DecidableEq, Repr

namespace Setting

/-- What a setting is. -/
def Kind : Setting → Type
  | strict | autoFix | alwaysLog => Bool
  | defaultType => Option CommitType
  | logFile => Option Text

instance : (s : Setting) → DecidableEq s.Kind
  | strict | autoFix | alwaysLog => inferInstanceAs (DecidableEq Bool)
  | defaultType => inferInstanceAs (DecidableEq (Option CommitType))
  | logFile => inferInstanceAs (DecidableEq (Option Text))

/-- The name of a setting in the file. -/
def key : Setting → Text
  | strict => "strict".toList
  | autoFix => "auto_fix".toList
  | defaultType => "default_type".toList
  | alwaysLog => "always_log".toList
  | logFile => "log_file".toList

/-- The name of the variable for a setting. -/
def variableName : Setting → Text
  | strict => "GIT_SMART_LINT_STRICT".toList
  | autoFix => "GIT_SMART_LINT_AUTO_FIX".toList
  | defaultType => "GIT_SMART_LINT_DEFAULT_TYPE".toList
  | alwaysLog => "GIT_SMART_LINT_ALWAYS_LOG".toList
  | logFile => "GIT_SMART_LINT_LOG_FILE".toList

/-- A setting of a configuration. -/
def get : (s : Setting) → Config → s.Kind
  | strict, c => c.strict
  | autoFix, c => c.autoFix
  | defaultType, c => c.defaultType
  | alwaysLog, c => c.alwaysLog
  | logFile, c => c.logFile

/-- What a setting is if nothing is said about it. -/
def default : (s : Setting) → s.Kind
  | strict | autoFix | alwaysLog => false
  | defaultType | logFile => none

/-- A default type in the file.  A name that is no type means none. -/
def typeOf? : Value → Option (Option CommitType)
  | .null => some none
  | .text t => some (CommitType.ofName? (lower (Config.sanitize t)))
  | _ => none

/-- A log file in the file.  One that would not stay below the working directory means
none, and so does a list or a table that is turned down like one. -/
def logFileOf? : Value → Option (Option Text)
  | .null => some none
  | .text t =>
    let cleaned := Config.sanitize t
    some (if cleaned = [] ∨ Files.Path.isSafe cleaned = true then some cleaned else none)
  | v => if Config.checkLogFile v = .unsafeFile ∧ v.display?.isSome then some none else none

/-- What a value in the file makes of a setting; nothing if it cannot be used. -/
def ofValue? : (s : Setting) → Value → Option s.Kind
  | strict | autoFix | alwaysLog => fun v => v.decodeBool.toOption
  | defaultType => typeOf?
  | logFile => logFileOf?

/-- What a variable makes of a setting. -/
def ofVariable : (s : Setting) → Text → s.Kind
  | strict | autoFix | alwaysLog => fun t =>
    (["true", "1", "yes", "on"].map String.toList).contains (lower t)
  | defaultType => fun t => CommitType.ofName? (lower (Config.sanitize t))
  | logFile => fun t => nonempty? (Config.sanitize t)

/-- What the environment makes of a setting. -/
def ofEnvironment (s : Setting) (env : Environment) : s.Kind :=
  (env.lookup s.variableName).elim s.default s.ofVariable

/-- What a setting is, given the table of a file and an environment: the file speaks first.
Nothing if what it says cannot be used. -/
def settled? (s : Setting) (env : Environment) (entries : List (Text × Value)) :
    Option s.Kind :=
  match Value.find? s.key entries with
  | some v => s.ofValue? v
  | none => some (s.ofEnvironment env)

/-- The configuration that has given settings. -/
def assemble (f : (s : Setting) → s.Kind) : Config :=
  ⟨f strict, f autoFix, f defaultType, f alwaysLog, f logFile⟩

@[simp] theorem get_assemble (f : (s : Setting) → s.Kind) (s : Setting) :
    s.get (assemble f) = f s := by
  cases s <;> rfl

theorem key_mem_fieldNames (s : Setting) : s.key ∈ Config.fieldNames := by
  cases s <;> decide

/-! ### The steps, for one setting -/

/-- How a setting is read. -/
def decode : (s : Setting) → Value → Decoded s.Kind
  | strict | autoFix | alwaysLog => Value.decodeBool
  | defaultType => Value.decodeOption (Value.decodeMember CommitType.ofName?)
  | logFile => Value.decodeOption Value.decodeText

/-- What normalizing makes of a value. -/
def normalized : Setting → Value → Value
  | defaultType => Config.normalizedType
  | _ => id

/-- The value that the environment gives for the text of a variable. -/
def valueOfVariable : Setting → Text → Value
  | strict | autoFix | alwaysLog => Config.boolSetting
  | defaultType | logFile => Config.textSetting

/-- What the program reads from a value that has been cleaned, if there is one. -/
def taken? (s : Setting) : Option Value → Option s.Kind
  | none => some s.default
  | some v => (s.decode (s.normalized v)).toOption

end Setting

namespace Config

/-! ## Reading merged settings -/

theorem fieldOr_eq_ok_iff {α : Type} {name : String} {default : α}
    {decode : Value → Decoded α} {es : List (Text × Value)} {a : α} :
    Value.fieldOr name default decode es = .ok a ↔
      (match Value.find? name.toList es with
        | none => some default
        | some v => (decode v).toOption) = some a := by
  unfold Value.fieldOr
  cases Value.find? name.toList es with
  | none => simp
  | some v => rw [← Decoded.toOption_eq_some_iff, Decoded.toOption_under]

theorem find?_normalizeType (s : Setting) (es : List (Text × Value)) :
    Value.find? s.key (normalizeType es).1 = (Value.find? s.key es).map s.normalized := by
  cases s with
  | defaultType =>
      show Value.find? "default_type".toList _ =
        (Value.find? "default_type".toList es).map normalizedType
      cases hFind : Value.find? "default_type".toList es with
      | none =>
          rw [normalizeType_absent hFind, hFind]
          rfl
      | some v =>
          rw [normalizeType_own hFind]
          rfl
  | _ =>
      rw [normalizeType_other es (by decide)]
      exact Option.map_id.symm ▸ rfl

theorem find?_ofEnvironment_key (s : Setting) (env : Environment) :
    Value.find? s.key (ofEnvironment env) =
      (env.lookup s.variableName).map s.valueOfVariable := by
  obtain ⟨hStrict, hFix, hType, hAlways, hLog⟩ := find?_ofEnvironment env
  cases s with
  | strict => exact hStrict
  | autoFix => exact hFix
  | defaultType => exact hType
  | alwaysLog => exact hAlways
  | logFile => exact hLog

/-- Settings have been read if each of them has. -/
theorem decode_eq_ok_iff_forall {es : List (Text × Value)} {c : Config} :
    decode es = .ok c ↔ ∀ s : Setting,
      (match Value.find? s.key es with
        | none => some s.default
        | some v => (s.decode v).toOption) = some (s.get c) := by
  rw [decode_eq_ok_iff]
  simp only [fieldOr_eq_ok_iff]
  constructor
  · rintro ⟨hStrict, hFix, hType, hAlways, hLog⟩ s
    cases s with
    | strict => exact hStrict
    | autoFix => exact hFix
    | defaultType => exact hType
    | alwaysLog => exact hAlways
    | logFile => exact hLog
  · intro hAll
    exact ⟨hAll .strict, hAll .autoFix, hAll .defaultType, hAll .alwaysLog, hAll .logFile⟩

/-- Given settings go before those of the environment, for each setting on its own. -/
theorem build_eq_ok_iff {env : Environment} {given : List (Text × Value)} {c : Config} :
    (build env given).1 = .ok c ↔ ∀ s : Setting,
      s.taken? ((Value.find? s.key given).or
        ((env.lookup s.variableName).map s.valueOfVariable)) = some (s.get c) := by
  have hBuild : (build env given).1 =
      decode (normalizeType (override given (ofEnvironment env))).1 := rfl
  rw [hBuild, decode_eq_ok_iff_forall]
  refine forall_congr' fun s => ?_
  rw [find?_normalizeType, find?_override, find?_ofEnvironment_key]
  cases (Value.find? s.key given).or ((env.lookup s.variableName).map s.valueOfVariable) <;> rfl

/-- The name of a default type, once it has been normalized. -/
theorem decode_normalizedType (t : Text) :
    (Value.decodeOption (Value.decodeMember CommitType.ofName?)
      (normalizedType (.text t))).toOption = some (CommitType.ofName? (lower t)) := by
  cases hName : CommitType.ofName? (lower t) with
  | none => simp [normalizedType, hName, Value.decodeOption, Decoded.toOption]
  | some k =>
      simp only [normalizedType, hName, Option.isSome_some, if_true, Value.decodeOption,
        Value.decodeMember, Decoded.toOption_map]
      rfl

/-- What a variable makes of a setting is what is read from the value that it gives. -/
theorem taken?_valueOfVariable (s : Setting) (t : Text) :
    s.taken? (some (s.valueOfVariable t)) = some (s.ofVariable t) := by
  cases s with
  | strict | autoFix | alwaysLog =>
      rfl
  | defaultType =>
      simp only [Setting.valueOfVariable, Setting.ofVariable, textSetting]
      cases hClean : sanitize t with
      | nil => rfl
      | cons x xs => exact decode_normalizedType (x :: xs)
  | logFile =>
      simp only [Setting.valueOfVariable, Setting.ofVariable, textSetting, nonempty?]
      cases sanitize t <;> rfl

/-! ## Cleaning the table of a file -/

/-- A text, cleaned. -/
def cleanedText : Value → Value
  | .text t => .text (sanitize t)
  | v => v

/-- What checking a log file leaves of it; nothing if it cannot be checked, or not be shown. -/
def guardedLogFile? (v : Value) : Option Value :=
  if !v.isTruthy then some v
  else
    match checkLogFile v with
    | .fine => some v
    | .unsafeFile => v.display?.map fun _ => .null
    | .uncheckable => none

theorem find?_sanitizeEntry_self (name : Text) (es : List (Text × Value)) :
    Value.find? name (sanitizeEntry name es) = (Value.find? name es).map cleanedText := by
  unfold sanitizeEntry
  split
  · rename_i t hFind
    rw [Value.find?_replace_self hFind, hFind]
    rfl
  · rename_i hOther
    cases hFind : Value.find? name es with
    | none => rfl
    | some v =>
        cases v with
        | text t => exact absurd hFind (hOther t)
        | _ => rfl

theorem find?_sanitizeEntry_of_ne {name k : Text} (h : k ≠ name) (es : List (Text × Value)) :
    Value.find? k (sanitizeEntry name es) = Value.find? k es := by
  unfold sanitizeEntry
  split
  · exact Value.find?_replace_of_ne _ _ h
  · rfl

/-- Some notice says that the configuration file is left aside. -/
def leftAside (notices : List Notice) : Bool := notices.any Notice.isUnreadable

/-- Checking the log file changes what is said of it alone. -/
theorem find?_guardLogFile {es checked : List (Text × Value)} {told : List Notice}
    (h : guardLogFile es = some (checked, told)) :
    (Value.find? "log_file".toList es).map guardedLogFile? =
        (Value.find? "log_file".toList checked).map some ∧
      (∀ k, k ≠ "log_file".toList → Value.find? k checked = Value.find? k es) ∧
      leftAside told = false := by
  -- Where the settings stay as they are, the value stays too.
  have hKept {v : Value} (hFind : Value.find? "log_file".toList es = some v)
      (hGuard : guardedLogFile? v = some v) (hSame : some (es, []) = some (checked, told)) :
      (Value.find? "log_file".toList es).map guardedLogFile? =
          (Value.find? "log_file".toList checked).map some ∧
        (∀ k, k ≠ "log_file".toList → Value.find? k checked = Value.find? k es) ∧
        leftAside told = false := by
    rw [Option.some.injEq, Prod.mk.injEq] at hSame
    obtain ⟨rfl, rfl⟩ := hSame
    rw [hFind, Option.map_some, Option.map_some, hGuard]
    exact ⟨rfl, fun _ _ => rfl, rfl⟩
  unfold guardLogFile at h
  dsimp only at h
  split at h
  · rename_i hNone
    rw [Option.some.injEq, Prod.mk.injEq] at h
    obtain ⟨rfl, rfl⟩ := h
    rw [hNone]
    exact ⟨rfl, fun _ _ => rfl, rfl⟩
  rename_i v hFind
  split at h
  · rename_i hFalsy
    exact hKept hFind (by rw [guardedLogFile?, if_pos hFalsy]) h
  rename_i hTruthy
  split at h
  · rename_i hFine
    exact hKept hFind (by rw [guardedLogFile?, if_neg hTruthy, hFine]) h
  · rename_i hUnsafe
    obtain ⟨shown, hShown, hGiven⟩ := Option.map_eq_some_iff.1 h
    rw [Prod.mk.injEq] at hGiven
    obtain ⟨rfl, rfl⟩ := hGiven
    refine ⟨?_, fun k hk => Value.find?_replace_of_ne _ _ hk, rfl⟩
    rw [Value.find?_replace_self hFind, hFind, Option.map_some, Option.map_some,
      guardedLogFile?, if_neg hTruthy, hUnsafe, hShown]
    rfl
  · contradiction

/-- A log file that makes the file useless. -/
theorem exists_of_guardLogFile_eq_none {es : List (Text × Value)} (h : guardLogFile es = none) :
    ∃ v, Value.find? "log_file".toList es = some v ∧ guardedLogFile? v = none := by
  unfold guardLogFile at h
  dsimp only at h
  split at h
  · contradiction
  rename_i v hFind
  refine ⟨v, hFind, ?_⟩
  unfold guardedLogFile?
  split at h
  · contradiction
  rename_i hTruthy
  rw [if_neg hTruthy]
  cases hCheck : checkLogFile v with
  | fine =>
      rw [hCheck] at h
      contradiction
  | unsafeFile =>
      rw [hCheck] at h
      exact Option.map_eq_none_iff.2 (Option.map_eq_none_iff.1 h)
  | uncheckable => rfl

/-- What cleaning makes of a value in the file, setting by setting; nothing if it makes the
whole file useless. -/
def cleaned? : Setting → Value → Option Value
  | .defaultType, v => some (cleanedText v)
  | .logFile, v => guardedLogFile? (cleanedText v)
  | _, v => some v

/-- A table is cleaned setting by setting. -/
theorem find?_settingsOf {entries settings : List (Text × Value)} {told : List Notice}
    (h : settingsOf (.table entries) = some (settings, told)) :
    (∀ s : Setting, (Value.find? s.key entries).map (cleaned? s) =
      (Value.find? s.key settings).map some) ∧ leftAside told = false := by
  obtain ⟨⟨checked, told'⟩, hGuard, hGiven⟩ := Option.map_eq_some_iff.1 h
  rw [Prod.mk.injEq] at hGiven
  obtain ⟨rfl, rfl⟩ := hGiven
  obtain ⟨hLog, hOther, hQuiet⟩ := find?_guardLogFile hGuard
  rw [find?_sanitizeEntry_self, find?_sanitizeEntry_of_ne (by decide), Option.map_map] at hLog
  refine ⟨fun s => ?_, hQuiet⟩
  rw [Value.find?_filter (List.contains_iff_mem.2 s.key_mem_fieldNames)]
  cases s with
  | logFile => exact hLog
  | defaultType =>
      show (Value.find? "default_type".toList entries).map (some ∘ cleanedText) = _
      rw [← Option.map_map, ← find?_sanitizeEntry_self, ← find?_sanitizeEntry_of_ne
        (show "default_type".toList ≠ "log_file".toList by decide)]
      exact congrArg _ (hOther _ (by decide)).symm
  | strict | autoFix | alwaysLog =>
      rw [hOther _ (by decide), find?_sanitizeEntry_of_ne (by decide),
        find?_sanitizeEntry_of_ne (by decide)]
      rfl

/-- A table that cannot be cleaned has a setting that cannot be. -/
theorem exists_of_settingsOf_eq_none {entries : List (Text × Value)}
    (h : settingsOf (.table entries) = none) :
    ∃ s : Setting, ∃ v, Value.find? s.key entries = some v ∧ cleaned? s v = none := by
  obtain ⟨v, hFind, hGuard⟩ := exists_of_guardLogFile_eq_none (Option.map_eq_none_iff.1 h)
  rw [find?_sanitizeEntry_self, find?_sanitizeEntry_of_ne (by decide)] at hFind
  obtain ⟨w, hEntry, rfl⟩ := Option.map_eq_some_iff.1 hFind
  exact ⟨.logFile, w, hEntry, hGuard⟩

/-- A log file that is no text is given up, or it makes the file useless. -/
theorem bind_guardedLogFile?_of_no_text {v : Value}
    (hNoText : (Setting.logFile).taken? (some v) = none)
    (hFalsy : v.isTruthy = false → checkLogFile v ≠ .unsafeFile) :
    (guardedLogFile? v).bind (fun w => (Setting.logFile).taken? (some w)) =
      if checkLogFile v = .unsafeFile ∧ v.display?.isSome then some none else none := by
  unfold guardedLogFile?
  cases hTruthy : v.isTruthy with
  | false =>
      have hFine : ¬ (checkLogFile v = .unsafeFile ∧ v.display?.isSome = true) :=
        fun hUnsafe => hFalsy hTruthy hUnsafe.1
      rw [if_neg hFine]
      exact hNoText
  | true =>
      cases hCheck : checkLogFile v with
      | fine => exact hNoText
      | uncheckable => rfl
      | unsafeFile => cases v.display? <;> rfl

theorem bind_guardedLogFile?_text (t : Text) :
    (guardedLogFile? (.text t)).bind (fun w => (Setting.logFile).taken? (some w)) =
      some (if t = [] ∨ Files.Path.isSafe t = true then some t else none) := by
  cases t with
  | nil => rfl
  | cons x xs =>
      have hTruthy : (!(Value.text (x :: xs)).isTruthy) = false := rfl
      rw [guardedLogFile?, hTruthy, if_neg Bool.false_ne_true, checkLogFile]
      cases hSafe : Files.Path.isSafe (x :: xs) with
      | true => simp; rfl
      | false => simp [Value.display?]; rfl

/-- What a value in the file makes of a setting is what is read from it after cleaning. -/
theorem ofValue?_eq (s : Setting) (v : Value) :
    s.ofValue? v = (cleaned? s v).bind fun w => s.taken? (some w) := by
  cases s with
  | strict | autoFix | alwaysLog => rfl
  | defaultType =>
      cases v with
      | text t => exact (decode_normalizedType (sanitize t)).symm
      | _ => rfl
  | logFile =>
      cases v with
      | text t => exact (bind_guardedLogFile?_text (sanitize t)).symm
      | null => rfl
      | list items =>
          refine (bind_guardedLogFile?_of_no_text rfl fun hEmpty => ?_).symm
          cases items with
          | nil => decide
          | cons _ _ => contradiction
      | table entries =>
          refine (bind_guardedLogFile?_of_no_text rfl fun hEmpty => ?_).symm
          cases entries with
          | nil => decide
          | cons _ _ => contradiction
      | bool b =>
          refine (bind_guardedLogFile?_of_no_text (v := .bool b) rfl ?_).symm
          simp [checkLogFile]
      | int n =>
          refine (bind_guardedLogFile?_of_no_text (v := .int n) rfl ?_).symm
          simp [checkLogFile]
      | fraction x =>
          refine (bind_guardedLogFile?_of_no_text (v := .fraction x) rfl ?_).symm
          simp [checkLogFile]
      | timestamp m =>
          refine (bind_guardedLogFile?_of_no_text (v := .timestamp m) rfl ?_).symm
          simp [checkLogFile]

/-! ## The configuration of a document -/

theorem leftAside_build (env : Environment) (given : List (Text × Value)) :
    leftAside (build env given).2 = false := by
  unfold build normalizeType
  dsimp only
  split
  · unfold typeNotices
    split <;> rfl
  · rfl

/-- The settings of the environment alone. -/
theorem get_of_build_nil {env : Environment} {d : Config} (h : (build env []).1 = .ok d)
    (s : Setting) : s.get d = s.ofEnvironment env := by
  have hTaken := build_eq_ok_iff.1 h s
  rw [show Value.find? s.key [] = none from rfl, Option.none_or] at hTaken
  unfold Setting.ofEnvironment
  cases hVariable : env.lookup s.variableName with
  | none =>
      rw [hVariable] at hTaken
      exact (Option.some.inj hTaken).symm
  | some t =>
      rw [hVariable, Option.map_some, taken?_valueOfVariable] at hTaken
      exact (Option.some.inj hTaken).symm

/-- **One setting of a document**: what is read of it, after all steps, is what the table and
the environment say about it. -/
theorem taken?_settingsOf {entries settings : List (Text × Value)} {told : List Notice}
    (h : settingsOf (.table entries) = some (settings, told)) (env : Environment) (s : Setting) :
    s.taken? ((Value.find? s.key settings).or
      ((env.lookup s.variableName).map s.valueOfVariable)) = s.settled? env entries := by
  have hClean := (find?_settingsOf h).1 s
  unfold Setting.settled?
  cases hEntry : Value.find? s.key entries with
  | none =>
      rw [hEntry, Option.map_none, eq_comm, Option.map_eq_none_iff] at hClean
      rw [hClean, Option.none_or]
      unfold Setting.ofEnvironment
      cases env.lookup s.variableName with
      | none => rfl
      | some t => exact taken?_valueOfVariable s t
  | some v =>
      rw [hEntry, Option.map_some, eq_comm, Option.map_eq_some_iff] at hClean
      obtain ⟨w, hSetting, hValue⟩ := hClean
      rw [hSetting, Option.some_or]
      dsimp only
      rw [ofValue?_eq, ← hValue, Option.bind_some]

/-- A configuration comes out if every setting can be settled. -/
theorem build_settingsOf {entries settings : List (Text × Value)} {told : List Notice}
    (h : settingsOf (.table entries) = some (settings, told)) {env : Environment} {c : Config} :
    (build env settings).1 = .ok c ↔
      ∀ s : Setting, s.settled? env entries = some (s.get c) := by
  rw [build_eq_ok_iff]
  simp only [taken?_settingsOf h]

/-- Some setting cannot be used, or a configuration has them all. -/
theorem exists_settled (env : Environment) (entries : List (Text × Value)) :
    (∃ s : Setting, s.settled? env entries = none) ∨
      ∃ c : Config, ∀ s : Setting, s.settled? env entries = some (s.get c) := by
  by_cases hUseless : ∃ s : Setting, s.settled? env entries = none
  · exact Or.inl hUseless
  · have hSome (s : Setting) : (s.settled? env entries).isSome :=
      Option.isSome_iff_ne_none.2 fun hNone => hUseless ⟨s, hNone⟩
    refine Or.inr ⟨Setting.assemble fun s => (s.settled? env entries).get (hSome s), fun s => ?_⟩
    rw [Setting.get_assemble, Option.some_get]

/-- A setting of the table that cannot be cleaned cannot be used. -/
theorem settled?_of_cleaned? {env : Environment} {entries : List (Text × Value)} {s : Setting}
    {v : Value} (hEntry : Value.find? s.key entries = some v) (hClean : cleaned? s v = none) :
    s.settled? env entries = none := by
  unfold Setting.settled?
  rw [hEntry]
  dsimp only
  rw [ofValue?_eq, hClean]
  rfl

/-- The table of a directory's configuration file that holds the settings, if the file can be
read and has one. -/
def settingsTable? (tree : Files.Tree) (directory : Files.Path) :
    Option (List (Text × Value)) :=
  match tree.look (filePath directory).toText with
  | some (.file document) =>
    (Toml.read? document).bind fun es => (sectionOf es).decodeTable.toOption
  | _ => none

/-- The table of a file that holds a written table of the program. -/
theorem settingsTable?_of_written {tree : Files.Tree} {directory : Files.Path}
    {es : List (Text × Toml.Scalar)}
    (hLook : tree.look (filePath directory).toText = some (.file (Toml.writeTable sectionName es)))
    (hBare : ∀ e ∈ es, Toml.Bare e.1) (hOwn : (es.map Prod.fst).Nodup) :
    settingsTable? tree directory = some (es.map fun e => (e.1, e.2.toValue)) := by
  rw [settingsTable?, hLook]
  dsimp only
  rw [Toml.read?_writeTable (by decide) hBare hOwn, Option.bind_some]
  rfl

/-- What there is to tell about the settings of a table before they are used. -/
def tableNotices (env : Environment) (entries : List (Text × Value)) : List Notice :=
  match settingsOf (.table entries) with
  | some (settings, found) => found ++ (build env settings).2
  | none => []

/-- The file has been left aside: what was told until then is followed by the reason, and
then by what there is to tell about the environment. -/
def SetsAside (h : Host) (loaded : Config × List Notice) : Prop :=
  loaded.1 = (ofDefaults h.environment).1 ∧
    ∃ told why, loaded.2 = told ++ .unreadable why :: (ofDefaults h.environment).2 ∧
      h.untold? told = none

theorem SetsAside.leftAside {h : Host} {loaded : Config × List Notice}
    (hAside : SetsAside h loaded) : leftAside loaded.2 = true := by
  obtain ⟨-, told, why, hNotices, -⟩ := hAside
  rw [hNotices]
  exact List.any_eq_true.2 ⟨_, List.mem_append_right _ List.mem_cons_self, rfl⟩

theorem setsAside_leaveAside {h : Host} {told : List Notice} (hTold : h.untold? told = none)
    (why : Text) : SetsAside h (leaveAside h.environment told why) :=
  ⟨rfl, told, why, rfl, hTold⟩

/-- Some setting of a table cannot be used, or not all is told that there is to tell. -/
def Useless (h : Host) (entries : List (Text × Value)) : Prop :=
  (∃ s : Setting, s.settled? h.environment entries = none) ∨
    h.untold? (tableNotices h.environment entries) ≠ none

/-- A configuration in which every setting of a table is settled. -/
def Settles (h : Host) (entries : List (Text × Value)) (loaded : Config × List Notice) : Prop :=
  (∀ s : Setting, s.settled? h.environment entries = some (s.get loaded.1)) ∧
    leftAside loaded.2 = false ∧ h.untold? loaded.2 = none

/-- What a document with a table gives: a configuration in which every setting is settled, or,
if there is none, the one of the environment, with a notice. -/
theorem ofDocument_cases {document : Text} {es entries : List (Text × Value)}
    (hRead : Toml.read? document = some es) (hSection : sectionOf es = .table entries) (h : Host) :
    Settles h entries (ofDocument h document) ∨
      Useless h entries ∧ SetsAside h (ofDocument h document) := by
  unfold ofDocument
  rw [hRead, Option.bind_some, hSection]
  cases hSettings : settingsOf (.table entries) with
  | none =>
      obtain ⟨s, v, hEntry, hClean⟩ := exists_of_settingsOf_eq_none hSettings
      exact Or.inr ⟨Or.inl ⟨s, settled?_of_cleaned? hEntry hClean⟩, setsAside_leaveAside rfl _⟩
  | some found =>
      obtain ⟨settings, told⟩ := found
      have hTold := (find?_settingsOf hSettings).2
      have hMore := leftAside_build h.environment settings
      have hOk (c : Config) : (build h.environment settings).1 = .ok c ↔
          ∀ s : Setting, s.settled? h.environment entries = some (s.get c) :=
        build_settingsOf hSettings
      have hNotices : tableNotices h.environment entries =
          told ++ (build h.environment settings).2 := by
        rw [tableNotices, hSettings]
      dsimp only
      cases hBuild : build h.environment settings with
      | mk outcome more =>
          rw [hBuild] at hMore hOk hNotices
          dsimp only at hNotices ⊢
          cases hUntold : h.untold? (told ++ more) with
          | some why =>
              refine Or.inr ⟨Or.inr ?_, setsAside_leaveAside ?_ _⟩
              · rw [hNotices, hUntold]
                exact Option.some_ne_none why
              · exact Host.untold?_eq_none_iff.2 fun n hn => (Host.mem_of_mem_told hn).2
          | none =>
              cases outcome with
              | ok c =>
                  refine Or.inl ⟨(hOk c).1 rfl, ?_, hUntold⟩
                  dsimp only
                  rw [leftAside, List.any_append, Bool.or_eq_false_iff]
                  exact ⟨hTold, hMore⟩
              | bad problems =>
                  have hAside := setsAside_leaveAside hUntold (h.complaint document)
                  rcases exists_settled h.environment entries with hUseless | ⟨c, hc⟩
                  · exact Or.inr ⟨Or.inl hUseless, hAside⟩
                  · exact absurd ((hOk c).2 hc) (by simp)

/-- What is loaded: a configuration in which every setting is settled between the table of the
file and the environment; the one of the environment alone, where there is no file; or that
one with a notice, where there is no such table or it is useless. -/
theorem load_cases (h : Host) (tree : Files.Tree) (directory : Files.Path) :
    (∃ entries, settingsTable? tree directory = some entries ∧
      Settles h entries (load h tree directory)) ∨
    (tree.look (filePath directory).toText = none ∧
      load h tree directory = ofDefaults h.environment) ∨
    (tree.look (filePath directory).toText ≠ none ∧
      (∀ entries, settingsTable? tree directory = some entries → Useless h entries) ∧
      SetsAside h (load h tree directory)) := by
  unfold load settingsTable?
  dsimp only
  cases tree.look (filePath directory).toText with
  | none => exact Or.inr (Or.inl ⟨rfl, rfl⟩)
  | some entry =>
      cases entry with
      | directory =>
          exact Or.inr (Or.inr ⟨Option.some_ne_none _, by simp, setsAside_leaveAside rfl _⟩)
      | file document =>
          dsimp only
          cases hRead : Toml.read? document with
          | none =>
              refine Or.inr (Or.inr ⟨Option.some_ne_none _, by simp, ?_⟩)
              rw [ofDocument, hRead, Option.bind_none]
              exact setsAside_leaveAside rfl _
          | some es =>
              rw [Option.bind_some]
              cases hSection : sectionOf es with
              | table entries =>
                  rcases ofDocument_cases hRead hSection h with hSettles | ⟨hUseless, hAside⟩
                  · exact Or.inl ⟨entries, rfl, hSettles⟩
                  · refine Or.inr (Or.inr ⟨Option.some_ne_none _, fun _ hOwn => ?_, hAside⟩)
                    rwa [← Option.some.inj hOwn]
              | _ =>
                  refine Or.inr (Or.inr ⟨Option.some_ne_none _, ?_, ?_⟩)
                  · simp [Value.decodeTable, Decoded.fail, Decoded.toOption]
                  · rw [ofDocument, hRead, Option.bind_some, hSection]
                    exact setsAside_leaveAside rfl _

theorem settled?_eq_none_iff {s : Setting} {env : Environment} {entries : List (Text × Value)} :
    s.settled? env entries = none ↔
      ∃ v, Value.find? s.key entries = some v ∧ s.ofValue? v = none := by
  unfold Setting.settled?
  cases Value.find? s.key entries <;> simp

/-! ## Precedence -/

/-- Where no notice says that the file has been left aside, every setting is settled. -/
theorem settled?_load {h : Host} {tree : Files.Tree} {directory : Files.Path}
    (hUsed : leftAside (load h tree directory).2 = false) (s : Setting) :
    s.settled? h.environment ((settingsTable? tree directory).getD []) =
      some (s.get (load h tree directory).1) := by
  rcases load_cases h tree directory with
    ⟨entries, hTable, hSettled, -⟩ | ⟨hLook, hSame⟩ | ⟨-, -, hAside⟩
  · rw [hTable]
    exact hSettled s
  · have hTable : settingsTable? tree directory = none := by rw [settingsTable?, hLook]
    obtain ⟨d, notices, hBuild, hDefaults⟩ := ofDefaults_eq h.environment
    rw [hTable, hSame, hDefaults, get_of_build_nil (congrArg Prod.fst hBuild)]
    rfl
  · rw [hAside.leftAside] at hUsed
    contradiction

/--
**The file, the environment, the default**: if no notice says that the file has been left
aside, each of the five settings is what its name in the table of the file makes of it, even if
that is nothing; if the name does not stand there, what its variable makes of it; and else the
default.  Hence two runs whose tables and environments say the same about a setting give it
the same value, whatever else is different between them.
-/
theorem load_precedence {h : Host} {tree : Files.Tree} {directory : Files.Path}
    (hUsed : leftAside (load h tree directory).2 = false) :
    let table := (settingsTable? tree directory).getD []
    (∀ s : Setting, s.settled? h.environment table = some (s.get (load h tree directory).1)) ∧
    ∀ (h' : Host) (tree' : Files.Tree) (directory' : Files.Path),
      leftAside (load h' tree' directory').2 = false →
      ∀ s : Setting, h.environment.lookup s.variableName = h'.environment.lookup s.variableName →
        Value.find? s.key table =
          Value.find? s.key ((settingsTable? tree' directory').getD []) →
        s.get (load h tree directory).1 = s.get (load h' tree' directory').1 := by
  intro table
  refine ⟨settled?_load hUsed, fun h' tree' directory' hUsed' s hVariable hKey => ?_⟩
  have hOwn := settled?_load hUsed s
  have hOther := settled?_load hUsed' s
  have hSame : s.settled? h.environment table =
      s.settled? h'.environment ((settingsTable? tree' directory').getD []) := by
    rw [Setting.settled?, Setting.ofEnvironment, hVariable, hKey]
    rfl
  exact Option.some.inj (hOwn.symm.trans (hSame.trans hOther))

/-- An unsafe log file in the file goes before a good one in a variable, and a second directory
says the same about it. -/
theorem load_precedence_unsafe_log_file :
    let env : Environment := [("GIT_SMART_LINT_LOG_FILE".toList, "lint.log".toList),
      ("GIT_SMART_LINT_STRICT".toList, "yes ".toList),
      ("GIT_SMART_LINT_ALWAYS_LOG".toList, "ON".toList),
      ("GIT_SMART_LINT_DEFAULT_TYPE".toList, "fix".toList)]
    let es := [("default_type".toList, Toml.Scalar.text " Feat".toList),
      ("log_file".toList, Toml.Scalar.text "../lint.log".toList)]
    let es' := [("strict".toList, Toml.Scalar.text "on".toList),
      ("log_file".toList, Toml.Scalar.text "../lint.log".toList)]
    let tree := Files.Tree.ofFiles [(fileName, Toml.writeTable sectionName es)]
    let tree' := Files.Tree.ofFiles [(fileName, Toml.writeTable sectionName es')]
    let h := Host.calm env
    let h' := Host.calm (env.take 1)
    leftAside (load h tree ⟨false, []⟩).2 = false ∧
      leftAside (load h' tree' ⟨false, []⟩).2 = false ∧
      Setting.get .strict (load h tree ⟨false, []⟩).1 = false ∧
      Setting.get .defaultType (load h tree ⟨false, []⟩).1 = some .feat ∧
      Setting.get .alwaysLog (load h tree ⟨false, []⟩).1 = true ∧
      Setting.get .logFile (load h tree ⟨false, []⟩).1 = none ∧
      Setting.get .logFile (load h tree ⟨false, []⟩).1 =
        Setting.get .logFile (load h' tree' ⟨false, []⟩).1 := by
  intro env es es' tree tree' h h'
  let table := es.map fun e => (e.1, e.2.toValue)
  have hTable : settingsTable? tree ⟨false, []⟩ = some table :=
    settingsTable?_of_written rfl (by decide) (by decide)
  have hTable' : settingsTable? tree' ⟨false, []⟩ = some (es'.map fun e => (e.1, e.2.toValue)) :=
    settingsTable?_of_written rfl (by decide) (by decide)
  have hUsed : leftAside (load h tree ⟨false, []⟩).2 = false := by decide +kernel
  have hUsed' : leftAside (load h' tree' ⟨false, []⟩).2 = false := by decide +kernel
  have hStrict : Setting.settled? .strict env table =
      (some false : Option (Setting.Kind .strict)) := by decide +kernel
  have hType : Setting.settled? .defaultType env table =
      (some (some .feat) : Option (Setting.Kind .defaultType)) := by decide +kernel
  have hAlways : Setting.settled? .alwaysLog env table =
      (some true : Option (Setting.Kind .alwaysLog)) := by decide +kernel
  have hLog : Setting.settled? .logFile env table =
      (some none : Option (Setting.Kind .logFile)) := by decide +kernel
  obtain ⟨hSettled, hAlike⟩ := load_precedence hUsed
  rw [hTable, Option.getD_some] at hSettled hAlike
  refine ⟨hUsed, hUsed', ?_, ?_, ?_, ?_, ?_⟩
  · exact Option.some.inj ((hSettled .strict).symm.trans hStrict)
  · exact Option.some.inj ((hSettled .defaultType).symm.trans hType)
  · exact Option.some.inj ((hSettled .alwaysLog).symm.trans hAlways)
  · exact Option.some.inj ((hSettled .logFile).symm.trans hLog)
  · refine hAlike h' tree' ⟨false, []⟩ hUsed' .logFile rfl ?_
    rw [hTable']
    rfl

end Config

end CommitLint
