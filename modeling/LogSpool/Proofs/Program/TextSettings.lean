import LogSpool.Program.Start
import LogSpool.Proofs.Decimal.Numeral

/-!
# Text settings from the environment

This module says which texts a setting keeps that is given by an environment variable.  The value of
a variable is read before anybody asks for a text: as a truth value, an integer or a double if it is
one.  A text setting then gets what was read, printed, and that is the text itself only if the text
is the printed form.

* `printed_ofVariable_iff` — the texts that are printed as they were read.
* `reproduced_of_foreign` — a text with a character that stands in no numeral is one of them, if it
  is not one of a few words.
* `text_setting_kept_iff` — a configuration is always loaded, and it has the text that was given
  exactly if that text is one of these.
-/

namespace LogSpool

namespace Settings

/-- The text of a value without parts, which is what a setting gets that is a text. -/
def Scalar.printed : Scalar → String
  | .bool b => if b then "true" else "false"
  | .integer n => toString n
  | .float x => textOfFloat x
  | .text s => s

/-- Whether a text is the printed form of the value that it is read as. -/
def Reproduced (s : String) : Prop :=
  match Scalar.ofVariable s with
  | .bool _ => s = "true" ∨ s = "false"
  | .integer _ => Decimal.Canonical s.toList
  | .float x => textOfFloat x = s
  | .text _ => True

theorem printed_ofVariable_iff (s : String) : (Scalar.ofVariable s).printed = s ↔ Reproduced s := by
  unfold Reproduced
  generalize hread : Scalar.ofVariable s = v
  unfold Scalar.ofVariable at hread
  split at hread
  · next htrue =>
      obtain rfl := hread
      refine ⟨fun h => Or.inl h.symm, fun h => ?_⟩
      rcases h with rfl | rfl
      · rfl
      · exact absurd htrue (by decide)
  · next hfalse =>
      obtain rfl := hread
      refine ⟨fun h => Or.inr h.symm, fun h => ?_⟩
      rcases h with rfl | rfl
      · exact absurd hfalse (by decide)
      · rfl
  · split at hread
    · next n hn =>
        obtain rfl := hread
        exact String.toList_inj.symm.trans (Decimal.toList_signed64?_iff hn)
    · split at hread
      · obtain rfl := hread
        exact Iff.rfl
      · obtain rfl := hread
        exact iff_of_true rfl trivial

/-- Whether a text, in any case, is the name of a truth value or of a double. -/
def IsWord (s : String) : Prop :=
  Text.lower s = "true" ∨ Text.lower s = "false" ∨ Decimal.IsName s.toList

/-- A text with a character that stands in no numeral is read as a text, but for the words. -/
theorem ofVariable_of_foreign {s : String} {c : Char} (hc : c ∈ s.toList)
    (hforeign : Decimal.isNumeralChar c = false) (hword : ¬ IsWord s) :
    Scalar.ofVariable s = .text s := by
  simp only [IsWord, not_or] at hword
  obtain ⟨htrue, hfalse, hname⟩ := hword
  have hinteger : Decimal.signed64? s.toList = none := by
    cases h : Decimal.signed64? s.toList with
    | none => rfl
    | some n => exact absurd (Decimal.numeral_of_signed64? h c hc) (by simp [hforeign])
  have hscaled : Decimal.scaled? s.toList = none := by
    cases h : Decimal.scaled? s.toList with
    | none => rfl
    | some v => exact absurd (Decimal.numeral_of_scaled? h c hc) (by simp [hforeign])
  unfold Scalar.ofVariable
  split
  · next h => exact absurd h htrue
  · next h => exact absurd h hfalse
  · rw [hinteger, Decimal.float?_eq_none hscaled hname]

theorem reproduced_of_foreign {s : String} {c : Char} (hc : c ∈ s.toList)
    (hforeign : Decimal.isNumeralChar c = false) (hword : ¬ IsWord s) : Reproduced s := by
  rw [← printed_ofVariable_iff, ofVariable_of_foreign hc hforeign hword]
  rfl

end Settings

/-! ## The settings that are texts -/

/-- A setting that is a text. -/
inductive TextSetting where
  | dbHost
  | dbName
  | dbUser
  | dbPassword
  | logDir
  deriving Repr, DecidableEq

namespace TextSetting

/-- The environment variable that gives a setting. -/
def variableName : TextSetting → String
  | .dbHost => "DB_HOST"
  | .dbName => "DB_NAME"
  | .dbUser => "DB_USER"
  | .dbPassword => "DB_PASSWORD"
  | .logDir => "LOG_DIR"

/-- The name of a setting. -/
def key : TextSetting → String
  | .dbHost => "db_host"
  | .dbName => "db_name"
  | .dbUser => "db_user"
  | .dbPassword => "db_password"
  | .logDir => "log_dir"

/-- The setting in a configuration. -/
def get (c : ProgramConfig) : TextSetting → String
  | .dbHost => c.dbHost
  | .dbName => c.dbName
  | .dbUser => c.dbUser
  | .dbPassword => c.dbPassword
  | .logDir => c.logDir

/-- A configuration with another text for the setting. -/
def set (s : String) (c : ProgramConfig) : TextSetting → ProgramConfig
  | .dbHost => { c with dbHost := s }
  | .dbName => { c with dbName := s }
  | .dbUser => { c with dbUser := s }
  | .dbPassword => { c with dbPassword := s }
  | .logDir => { c with logDir := s }

/-- What the database or the logging is given. -/
def handedOn (c : ProgramConfig) : TextSetting → String
  | .dbHost => c.connection.host
  | .dbName => c.connection.database
  | .dbUser => c.connection.user
  | .dbPassword => c.connection.password
  | .logDir => c.logging.dir

theorem get_set (s : String) (c : ProgramConfig) (setting : TextSetting) :
    get (set s c setting) setting = s := by
  cases setting <;> rfl

theorem handedOn_eq_get (c : ProgramConfig) (setting : TextSetting) :
    handedOn c setting = get c setting := by
  cases setting <;> rfl

/-- A tree with this one setting is read as the standard configuration with its printed form. -/
theorem ofTree_key (setting : TextSetting) (v : Settings.Scalar) :
    ProgramConfig.ofTree (Settings.Tree.ofLayers [[], [(setting.key, .scalar v .environment)]]) =
      .ok (set v.printed .standard setting) := by
  cases setting <;> cases v <;> rfl

theorem normalEngine_set (setting : TextSetting) (s : String) :
    (set s .standard setting).normalEngine = ProgramConfig.standard.normalEngine := by
  cases setting <;> rfl

/-- A configuration that is loaded from one variable alone has, in this one setting, the printed
form of what the variable's text is read as, and is the standard one in all others. -/
theorem load_variableName (setting : TextSetting) (s : String) :
    ProgramConfig.load none [(setting.variableName, s)] =
      .ok (set (Settings.Scalar.ofVariable s).printed .standard setting) := by
  have hname : Text.lower setting.variableName = setting.key := by
    cases setting <;> decide
  have hbindings : Settings.ofEnvironment [(setting.variableName, s)] =
      [(setting.key, .scalar (.ofVariable s) .environment)] := by
    rw [← hname]
    rfl
  unfold ProgramConfig.load
  simp only [hbindings, pure_bind, ofTree_key]
  change (do
    let _ ← (set (Settings.Scalar.ofVariable s).printed .standard setting).normalEngine
    pure (set (Settings.Scalar.ofVariable s).printed .standard setting)) = _
  rw [normalEngine_set]
  rfl

end TextSetting

/-- Loading a text setting from the environment always succeeds, and what is handed on is what was
loaded; this is the given text exactly if the text is reproduced.  So is every text with a character
that stands in no numeral, but for the words. -/
theorem text_setting_kept_iff (setting : TextSetting) (s : String) :
    (∃ c, ProgramConfig.load none [(setting.variableName, s)] = .ok c ∧
      setting.handedOn c = setting.get c ∧
      (setting.get c = s ↔ Settings.Reproduced s)) ∧
    ∀ c ∈ s.toList, Decimal.isNumeralChar c = false → ¬ Settings.IsWord s →
      Settings.Reproduced s := by
  refine ⟨⟨_, setting.load_variableName s, setting.handedOn_eq_get _, ?_⟩, ?_⟩
  · rw [TextSetting.get_set]
    exact Settings.printed_ofVariable_iff s
  · intro c hc hforeign hword
    exact Settings.reproduced_of_foreign hc hforeign hword

/-- Not every text is kept: a password of digits loses the zeros that it starts with. -/
theorem text_setting_not_kept :
    ¬ ∀ (setting : TextSetting) (s : String),
      ∃ c, ProgramConfig.load none [(setting.variableName, s)] = .ok c ∧
        setting.get c = s ∧ setting.handedOn c = s := by
  intro h
  obtain ⟨c, hload, hkept, -⟩ := h .dbPassword "007"
  obtain rfl := Except.ok.inj ((TextSetting.load_variableName _ _).symm.trans hload)
  rw [TextSetting.get_set] at hkept
  have hprinted : (Settings.Scalar.ofVariable "007").printed = "7" := rfl
  rw [hprinted] at hkept
  exact absurd hkept (by decide)

end LogSpool
