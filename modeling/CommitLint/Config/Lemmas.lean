import CommitLint.Config.Store
import Mathlib.Data.List.TakeWhile

/-!
# Sources of settings

What each setting is after the sources have been put together.  Every variable
of the environment sets one setting, the default type alone is normalized, and
the environment on its own can always be read: `build_nil_ok` says so, and
`ofDefaults_eq` that the configuration without a file is the one it gives.  Where
the configuration file can be used, the default type that it gives wins over the
environment, even if it is nothing: `defaultType_load`.

Before that, `Host.untold?_eq_none_iff` says when notices can all be told.
-/

namespace CommitLint

namespace Host

variable {h : Host} {notices : List Notice}

theorem untold?_eq_none_iff : h.untold? notices = none ↔ ∀ n ∈ notices, h.objection? n = none :=
  List.findSome?_eq_none_iff

/-- Notices that can all be told are told. -/
theorem told_of_untold? (hAll : h.untold? notices = none) : h.told notices = notices := by
  rw [told, List.takeWhile_eq_self_iff]
  intro n hn
  rw [untold?_eq_none_iff.1 hAll n hn]
  rfl

theorem mem_of_mem_told {n : Notice} (hn : n ∈ h.told notices) :
    n ∈ notices ∧ h.objection? n = none :=
  ⟨List.takeWhile_subset _ hn, by simpa using List.mem_takeWhile_imp hn⟩

end Host

namespace Config

open Text

/-- Without given entries the fallback is all there is. -/
theorem override_nil (fallback : List (Text × Value)) : override [] fallback = fallback := by
  simp [override]

/-- The environment sets each setting by one variable of its own. -/
theorem find?_ofEnvironment (env : Environment) :
    Value.find? "strict".toList (ofEnvironment env) =
      (env.lookup "GIT_SMART_LINT_STRICT".toList).map boolSetting ∧
    Value.find? "auto_fix".toList (ofEnvironment env) =
      (env.lookup "GIT_SMART_LINT_AUTO_FIX".toList).map boolSetting ∧
    Value.find? "default_type".toList (ofEnvironment env) =
      (env.lookup "GIT_SMART_LINT_DEFAULT_TYPE".toList).map textSetting ∧
    Value.find? "always_log".toList (ofEnvironment env) =
      (env.lookup "GIT_SMART_LINT_ALWAYS_LOG".toList).map boolSetting ∧
    Value.find? "log_file".toList (ofEnvironment env) =
      (env.lookup "GIT_SMART_LINT_LOG_FILE".toList).map textSetting := by
  simp only [ofEnvironment, settingVariables, List.filterMap_cons, List.filterMap_nil]
  cases env.lookup "GIT_SMART_LINT_STRICT".toList <;>
    cases env.lookup "GIT_SMART_LINT_AUTO_FIX".toList <;>
    cases env.lookup "GIT_SMART_LINT_DEFAULT_TYPE".toList <;>
    cases env.lookup "GIT_SMART_LINT_ALWAYS_LOG".toList <;>
    cases env.lookup "GIT_SMART_LINT_LOG_FILE".toList <;>
    exact ⟨rfl, rfl, rfl, rfl, rfl⟩

/-- The other settings are not touched. -/
theorem normalizeType_other (settings : List (Text × Value)) {name : Text}
    (h : name ≠ "default_type".toList) :
    Value.find? name (normalizeType settings).1 = Value.find? name settings := by
  unfold normalizeType
  dsimp only
  split
  · exact Value.find?_replace_of_ne _ _ h
  · rfl

/-- A default type that is set is replaced by what becomes of it. -/
theorem normalizeType_own {settings : List (Text × Value)} {v : Value}
    (h : Value.find? "default_type".toList settings = some v) :
    Value.find? "default_type".toList (normalizeType settings).1 = some (normalizedType v) := by
  unfold normalizeType
  dsimp only
  rw [h]
  cases v with
  | text t => exact Value.find?_replace_self h
  | null => exact h
  | bool b => exact h
  | int n => exact h
  | fraction x => exact h
  | timestamp t => exact h
  | list vs => exact h
  | table es => exact h

/-- Without a default type nothing changes. -/
theorem normalizeType_absent {settings : List (Text × Value)}
    (h : Value.find? "default_type".toList settings = none) :
    normalizeType settings = (settings, []) := by
  unfold normalizeType
  dsimp only
  rw [h]

/-- A truth value that comes from a variable can be read. -/
theorem fieldOr_boolSetting (name : String) {env : Environment} {var : Text}
    {es : List (Text × Value)}
    (h : Value.find? name.toList es = (env.lookup var).map boolSetting) :
    ∃ b, Value.fieldOr name false Value.decodeBool es = .ok b := by
  unfold Value.fieldOr
  rw [h]
  cases env.lookup var with
  | none => exact ⟨_, rfl⟩
  | some t => exact ⟨_, rfl⟩

/-- The environment alone always gives a configuration. -/
theorem build_nil_ok (env : Environment) : ∃ c ns, build env [] = (.ok c, ns) := by
  obtain ⟨h1, h2, h3, h4, h5⟩ := find?_ofEnvironment env
  have hd : ∃ k, Value.fieldOr "default_type" none
      (Value.decodeOption (Value.decodeMember CommitType.ofName?))
      (normalizeType (ofEnvironment env)).1 = .ok k := by
    unfold Value.fieldOr
    cases hv : env.lookup "GIT_SMART_LINT_DEFAULT_TYPE".toList with
    | none =>
      rw [hv] at h3
      rw [normalizeType_absent h3, h3]
      exact ⟨_, rfl⟩
    | some t =>
      rw [hv] at h3
      rw [normalizeType_own h3]
      dsimp only
      unfold textSetting
      dsimp only
      split
      · exact ⟨_, rfl⟩
      · unfold normalizedType
        dsimp only
        cases hk : CommitType.ofName? (lower (sanitize t)) with
        | none => exact ⟨_, rfl⟩
        | some k =>
          exact ⟨some k, by
            simp [Value.decodeOption, Value.decodeMember, hk, Decoded.map, Decoded.under]⟩
  have hl : ∃ t, Value.fieldOr "log_file" none (Value.decodeOption Value.decodeText)
      (normalizeType (ofEnvironment env)).1 = .ok t := by
    unfold Value.fieldOr
    rw [normalizeType_other _ (by decide), h5]
    cases env.lookup "GIT_SMART_LINT_LOG_FILE".toList with
    | none => exact ⟨_, rfl⟩
    | some t =>
      simp only [Option.map_some, textSetting]
      split <;> exact ⟨_, rfl⟩
  obtain ⟨k, hk⟩ := hd
  obtain ⟨l, hl⟩ := hl
  obtain ⟨b1, hb1⟩ := fieldOr_boolSetting "strict" ((normalizeType_other _ (by decide)).trans h1)
  obtain ⟨b2, hb2⟩ := fieldOr_boolSetting "auto_fix" ((normalizeType_other _ (by decide)).trans h2)
  obtain ⟨b4, hb4⟩ :=
    fieldOr_boolSetting "always_log" ((normalizeType_other _ (by decide)).trans h4)
  refine ⟨⟨b1, b2, k, b4, l⟩, (normalizeType (ofEnvironment env)).2, ?_⟩
  simp only [build, override_nil, decode, hb1, hb2, hk, hb4, hl]
  rfl

/-- Without a file the environment decides. -/
theorem ofDefaults_eq (env : Environment) :
    ∃ c ns, build env [] = (.ok c, ns) ∧ ofDefaults env = (c, ns) := by
  obtain ⟨c, ns, h⟩ := build_nil_ok env
  exact ⟨c, ns, h, by simp [ofDefaults, h]⟩

/-! ## Settings that have been read -/

theorem and_eq_ok {α β : Type} {f : Decoded (α → β)} {x : Decoded α} {b : β}
    (h : f.and x = .ok b) : ∃ g a, f = .ok g ∧ x = .ok a ∧ b = g a := by
  unfold Decoded.and at h
  split at h
  · rename_i g a
    exact ⟨g, a, rfl, rfl, (Decoded.ok.inj h).symm⟩
  all_goals contradiction

/-- A configuration that has been read consists of its five settings. -/
theorem decode_eq_ok_iff {es : List (Text × Value)} {c : Config} :
    decode es = .ok c ↔
      Value.fieldOr "strict" false Value.decodeBool es = .ok c.strict ∧
      Value.fieldOr "auto_fix" false Value.decodeBool es = .ok c.autoFix ∧
      Value.fieldOr "default_type" none
        (Value.decodeOption (Value.decodeMember CommitType.ofName?)) es = .ok c.defaultType ∧
      Value.fieldOr "always_log" false Value.decodeBool es = .ok c.alwaysLog ∧
      Value.fieldOr "log_file" none (Value.decodeOption Value.decodeText) es =
        .ok c.logFile := by
  constructor
  · intro h
    obtain ⟨withLog, l, hAlways, hLog, hc⟩ := and_eq_ok h
    obtain ⟨withAlways, a, hType, hAlwaysOk, hWithLog⟩ := and_eq_ok hAlways
    obtain ⟨withType, k, hFix, hTypeOk, hWithAlways⟩ := and_eq_ok hType
    obtain ⟨withFix, f, hStrict, hFixOk, hWithType⟩ := and_eq_ok hFix
    unfold Decoded.map at hStrict
    split at hStrict
    · rename_i s hStrictOk
      rw [hc, hWithLog, hWithAlways, hWithType, ← Decoded.ok.inj hStrict]
      exact ⟨hStrictOk, hFixOk, hTypeOk, hAlwaysOk, hLog⟩
    · contradiction
  · rintro ⟨hStrict, hFix, hType, hAlways, hLog⟩
    rw [decode, hStrict, hFix, hType, hAlways, hLog]
    rfl

/-! ## The default type -/

/-- The default type among settings: nothing is known of it, or it is a type or
none. -/
def typeIn (settings : List (Text × Value)) : Option (Option CommitType) :=
  (Value.find? "default_type".toList settings).map fun v =>
    match v with
    | .text t => CommitType.ofName? (lower t)
    | _ => none

theorem find?_override (name : Text) (given fallback : List (Text × Value)) :
    Value.find? name (override given fallback) =
      (Value.find? name given).or (Value.find? name fallback) := by
  unfold override Value.find?
  rw [List.lookup_append]
  cases hGiven : given.lookup name with
  | some v => rfl
  | none =>
      rw [Option.none_or, Option.none_or]
      induction fallback with
      | nil => rfl
      | cons e es ih =>
          obtain ⟨k, x⟩ := e
          rw [List.filter_cons]
          by_cases hk : name = k
          · subst hk
            simp [hGiven]
          · have hb : (name == k) = false := beq_false_of_ne hk
            split
            · rw [List.lookup_cons, List.lookup_cons, hb]
              exact ih
            · rw [List.lookup_cons, hb]
              exact ih

/-- A given default type wins over that of the environment. -/
theorem defaultType_build {env : Environment} {given : List (Text × Value)} {c : Config}
    {notices : List Notice} (h : build env given = (.ok c, notices)) :
    c.defaultType = (typeIn given).getD ((typeIn (ofEnvironment env)).getD none) := by
  have hDecode : decode (normalizeType (override given (ofEnvironment env))).1 = .ok c :=
    congrArg Prod.fst h
  have hField := (decode_eq_ok_iff.1 hDecode).2.2.1
  have hSources := find?_override "default_type".toList given (ofEnvironment env)
  have hKnown : (typeIn (override given (ofEnvironment env))).getD none =
      (typeIn given).getD ((typeIn (ofEnvironment env)).getD none) := by
    unfold typeIn
    rw [hSources]
    cases Value.find? "default_type".toList given <;> rfl
  rw [← hKnown, typeIn]
  generalize override given (ofEnvironment env) = es at hField
  unfold Value.fieldOr at hField
  cases hFind : Value.find? "default_type".toList es with
  | none =>
      rw [normalizeType_absent hFind, hFind] at hField
      exact (Decoded.ok.inj hField).symm
  | some v =>
      rw [normalizeType_own hFind] at hField
      cases v with
      | text t =>
          simp only [normalizedType] at hField
          cases hName : CommitType.ofName? (lower t) with
          | none =>
              rw [hName] at hField
              simpa [hName] using (Decoded.ok.inj hField).symm
          | some k =>
              simp only [hName, Option.isSome_some, if_true, Value.decodeOption,
                Value.decodeMember, Decoded.map, Decoded.under, Decoded.ok.injEq] at hField
              simpa [hName] using hField.symm
      | null => exact (Decoded.ok.inj hField).symm
      | _ => contradiction

/-- The settings of the configuration file, if it can be used; else none. -/
def fileSettings (h : Host) (tree : Files.Tree) (directory : Files.Path) :
    List (Text × Value) :=
  match tree.look (filePath directory).toText with
  | some (.file document) =>
    match (Toml.read? document).bind fun es => settingsOf (sectionOf es) with
    | some (settings, found) =>
      let (outcome, more) := build h.environment settings
      match h.untold? (found ++ more), outcome with
      | none, .ok _ => settings
      | _, _ => []
    | none => []
  | _ => []

theorem defaultType_ofDefaults (env : Environment) :
    (ofDefaults env).1.defaultType = (typeIn (ofEnvironment env)).getD none := by
  obtain ⟨c, ns, hBuild, hDefaults⟩ := ofDefaults_eq env
  rw [hDefaults, defaultType_build hBuild]
  rfl

/-- **The default type** is that of the configuration file, if the file can be used
and gives one, and else that of the environment. -/
theorem defaultType_load (h : Host) (tree : Files.Tree) (directory : Files.Path) :
    (load h tree directory).1.defaultType =
      (typeIn (fileSettings h tree directory)).getD
        ((typeIn (ofEnvironment h.environment)).getD none) := by
  have hDefaults : (ofDefaults h.environment).1.defaultType =
      (typeIn []).getD ((typeIn (ofEnvironment h.environment)).getD none) :=
    defaultType_ofDefaults h.environment
  unfold load fileSettings
  dsimp only
  cases tree.look (filePath directory).toText with
  | none => exact hDefaults
  | some entry =>
      cases entry with
      | directory => exact hDefaults
      | file document =>
          dsimp only
          unfold ofDocument
          cases (Toml.read? document).bind fun es => settingsOf (sectionOf es) with
          | none => exact hDefaults
          | some found =>
              obtain ⟨settings, notices⟩ := found
              dsimp only
              cases hBuild : build h.environment settings with
              | mk outcome more =>
                  dsimp only
                  cases h.untold? (notices ++ more) with
                  | some why => exact hDefaults
                  | none =>
                      cases outcome with
                      | ok c => exact defaultType_build hBuild
                      | bad problems => exact hDefaults

end Config

end CommitLint
