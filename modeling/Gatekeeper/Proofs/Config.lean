import Gatekeeper.Config
import Gatekeeper.Proofs.Text.LooseInteger

/-!
# Settings are read back

A setting that is given is checked by itself, whatever the others are, and one that is not
given has its default.  So what is read from any selection of settings is told by what each
of them is accepted as: written as a text in an environment, or as the value that checking
it has left.  Either way it is accepted as what it was, but for numbers that are too long to
be read from a text.
-/

namespace Gatekeeper

/-! ## Fields -/

namespace Form

variable {least n : Nat}

theorem natural_integer (enough : least ≤ n) :
    natural least (.integer n) = .ok ⟨n, enough⟩ := by
  rw [natural, anyInteger]
  exact dif_pos ⟨enough, Int.natCast_nonneg n⟩

theorem natural_text (enough : least ≤ n) :
    natural least (.text (toString n)) =
      if (Nat.toDigits 10 n).length ≤ Text.digitLimit then .ok ⟨n, enough⟩
      else .error .tooLargeInteger := by
  have read : Text.readLooseInteger (toString n) = _ := Text.readLooseInteger_repr n
  rw [natural, anyInteger, read]
  by_cases short : (Nat.toDigits 10 n).length ≤ Text.digitLimit
  · rw [if_neg (Nat.not_lt.mpr short), if_pos short]
    exact dif_pos ⟨enough, Int.natCast_nonneg n⟩
  · rw [if_pos (Nat.lt_of_not_le short), if_neg short]

end Form

namespace Config

theorem readTemplate_text {template : String} (mentions : Template.mentionsValue template = true) :
    readTemplate (.text template) = .ok ⟨template, mentions⟩ :=
  dif_pos mentions

/-- The name of a level is in capitals already. -/
theorem readLevel_name (level : Log.Level) : readLevel (.text level.name) = .ok level := by
  have capitals : Text.upperCase level.name = level.name := by
    cases level <;> decide
  rw [readLevel, Form.text]
  dsimp only
  rw [capitals, Log.Level.ofName?_name]

/-! ## One setting -/

def Setting.accept : Setting → Json → Except Form.Cause Json
  | .hashIterations, value => (Form.natural 1 value).map fun n => .integer n.val
  | .saltBytes, value => (Form.natural 8 value).map fun n => .integer n.val
  | .secretTemplate, value => (readTemplate value).map fun template => .text template.val
  | .logLevel, value => (readLevel value).map fun level => .text level.name
  | .exhaustiveShrinkLimit, value => (Form.natural 0 value).map fun n => .integer n.val

def taken (value? : Setting → Option Json) (setting : Setting) : Except Form.Cause Json :=
  match value? setting with
  | none => .ok (standard.settingValue setting)
  | some value => setting.accept value

def Setting.complaints (setting : Setting) : Except Form.Cause Json → List Form.Complaint
  | .ok _ => []
  | .error cause => [⟨[setting.name], cause⟩]

def number? (config : Config) : Setting → Option Nat
  | .hashIterations => some config.hashIterations
  | .saltBytes => some config.saltBytes
  | .secretTemplate => none
  | .logLevel => none
  | .exhaustiveShrinkLimit => some config.exhaustiveShrinkLimit

/-- Whether a setting, if it is a number, has few enough digits to be read from a text. -/
def readable (config : Config) (setting : Setting) : Bool :=
  (config.number? setting).all fun n => (Nat.toDigits 10 n).length ≤ Text.digitLimit

/-- Settings are the same if their values are. -/
theorem ext_settingValue {config other : Config}
    (same : ∀ setting, config.settingValue setting = other.settingValue setting) :
    config = other := by
  have iterations : config.hashIterations = other.hashIterations :=
    Int.ofNat.inj (Json.integer.inj (same .hashIterations))
  have salt : config.saltBytes = other.saltBytes :=
    Int.ofNat.inj (Json.integer.inj (same .saltBytes))
  have template : config.secretTemplate = other.secretTemplate :=
    Json.text.inj (same .secretTemplate)
  have limit : config.exhaustiveShrinkLimit = other.exhaustiveShrinkLimit :=
    Int.ofNat.inj (Json.integer.inj (same .exhaustiveShrinkLimit))
  have level : config.logLevel = other.logLevel := by
    have names := congrArg Log.Level.ofName? (Json.text.inj (same .logLevel))
    rwa [Log.Level.ofName?_name, Log.Level.ofName?_name, Option.some.injEq] at names
  cases config
  cases other
  cases iterations
  cases salt
  cases template
  cases limit
  cases level
  rfl

/-- A value that checking has left is accepted as it is. -/
theorem accept_settingValue (config : Config) (setting : Setting) :
    setting.accept (config.settingValue setting) = .ok (config.settingValue setting) := by
  cases setting with
  | hashIterations =>
      rw [Setting.accept, settingValue, Form.natural_integer config.iterations_pos]
      rfl
  | saltBytes =>
      rw [Setting.accept, settingValue, Form.natural_integer config.eight_le_saltBytes]
      rfl
  | secretTemplate =>
      rw [Setting.accept, settingValue, readTemplate_text config.mentions_user]
      rfl
  | logLevel =>
      rw [Setting.accept, settingValue, readLevel_name]
      rfl
  | exhaustiveShrinkLimit =>
      rw [Setting.accept, settingValue, Form.natural_integer (Nat.zero_le _)]
      rfl

/-- A setting written as a text is accepted as what it is, unless it is too long a number. -/
theorem accept_settingText (config : Config) (setting : Setting) :
    setting.accept (.text (config.settingText setting)) =
      if config.readable setting then .ok (config.settingValue setting)
      else .error .tooLargeInteger := by
  cases setting with
  | hashIterations =>
      rw [Setting.accept, settingText, Form.natural_text config.iterations_pos,
        apply_ite (Except.map _)]
      exact if_congr decide_eq_true_iff.symm rfl rfl
  | saltBytes =>
      rw [Setting.accept, settingText, Form.natural_text config.eight_le_saltBytes,
        apply_ite (Except.map _)]
      exact if_congr decide_eq_true_iff.symm rfl rfl
  | secretTemplate =>
      rw [Setting.accept, settingText, readTemplate_text config.mentions_user]
      rfl
  | logLevel =>
      rw [Setting.accept, settingText, readLevel_name]
      rfl
  | exhaustiveShrinkLimit =>
      rw [Setting.accept, settingText, Form.natural_text (Nat.zero_le _), apply_ite (Except.map _)]
      exact if_congr decide_eq_true_iff.symm rfl rfl

/-! ## All settings -/

/-- A result of reading a setting that shows what the setting is taken to be, and has no
complaint but the one about it. -/
structure Shows {α : Type} (value? : Setting → Option Json) (setting : Setting) (view : α → Json)
    (read : Checked α) : Prop where
  taken_of_ok : ∀ a, read = .ok a → taken value? setting = .ok (view a)
  ok_of_taken : (∃ value, taken value? setting = .ok value) → ∃ a, read = .ok a
  complaints : read.complaints = setting.complaints (taken value? setting)

theorem shows_field {α : Type} (value? : Setting → Option Json) (setting : Setting) (default : α)
    (reader : Json → Except Form.Cause α) {view : α → Json}
    (standing : view default = standard.settingValue setting)
    (reading : ∀ value, setting.accept value = (reader value).map view) :
    Shows value? setting view
      (Form.field (fun _ => value? setting) setting.name (some default) reader) := by
  unfold Form.field
  cases given : value? setting with
  | none =>
      have stands : taken value? setting = .ok (view default) := by
        rw [taken, given, standing]
      refine ⟨fun a same => ?_, fun _ => ⟨default, rfl⟩, ?_⟩
      · rw [← Except.ok.inj same]
        exact stands
      · rw [stands]
        rfl
  | some value =>
      have accepted : taken value? setting = (reader value).map view := by
        rw [taken, given, ← reading]
      dsimp only
      cases read : reader value with
      | ok a =>
          rw [read] at accepted
          refine ⟨fun b same => ?_, fun _ => ⟨a, rfl⟩, ?_⟩
          · rw [← Except.ok.inj same]
            exact accepted
          · rw [accepted]
            rfl
      | error cause =>
          rw [read] at accepted
          refine ⟨nofun, fun ⟨value, same⟩ => ?_, ?_⟩
          · rw [accepted] at same
            cases same
          · rw [accepted]
            rfl

/-- Either all settings are good and are what is read, or the complaints about all of them are. -/
theorem ofFields_cases (value? : Setting → Option Json) :
    (∃ config, ofFields value? = .ok config ∧
        ∀ setting, taken value? setting = .ok (config.settingValue setting)) ∨
      (¬ ∀ setting, ∃ value, taken value? setting = .ok value) ∧
        ofFields value? = .error (Setting.all.flatMap fun setting =>
          setting.complaints (taken value? setting)) := by
  have iterations := shows_field value? .hashIterations ⟨100000, by decide⟩ (Form.natural 1) rfl
    fun _ => rfl
  have salt := shows_field value? .saltBytes ⟨16, by decide⟩ (Form.natural 8) rfl fun _ => rfl
  have template := shows_field value? .secretTemplate
    ⟨standard.secretTemplate, standard.mentions_user⟩ readTemplate rfl fun _ => rfl
  have level := shows_field value? .logLevel standard.logLevel readLevel rfl fun _ => rfl
  have limit := shows_field value? .exhaustiveShrinkLimit ⟨12, Nat.zero_le 12⟩ (Form.natural 0) rfl
    fun _ => rfl
  unfold ofFields
  dsimp only
  -- the readings decide together which branch is taken, so it is split once for all of them
  split
  · next iterations_ok salt_ok template_ok level_ok limit_ok =>
    refine .inl ⟨_, rfl, fun setting => ?_⟩
    cases setting with
    | hashIterations => exact iterations.taken_of_ok _ iterations_ok
    | saltBytes => exact salt.taken_of_ok _ salt_ok
    | secretTemplate => exact template.taken_of_ok _ template_ok
    | logLevel => exact level.taken_of_ok _ level_ok
    | exhaustiveShrinkLimit => exact limit.taken_of_ok _ limit_ok
  · next incomplete =>
    refine .inr ⟨fun good => ?_, ?_⟩
    · obtain ⟨_, iterations_ok⟩ := iterations.ok_of_taken (good _)
      obtain ⟨_, salt_ok⟩ := salt.ok_of_taken (good _)
      obtain ⟨_, template_ok⟩ := template.ok_of_taken (good _)
      obtain ⟨_, level_ok⟩ := level.ok_of_taken (good _)
      obtain ⟨_, limit_ok⟩ := limit.ok_of_taken (good _)
      exact incomplete _ _ _ _ _ iterations_ok salt_ok template_ok level_ok limit_ok
    · rw [iterations.complaints, salt.complaints, template.complaints, level.complaints,
        limit.complaints]
      simp [Setting.all]

theorem ofFields_of_taken {value? : Setting → Option Json} {value : Setting → Json}
    (good : ∀ setting, taken value? setting = .ok (value setting)) :
    ∃ config, ofFields value? = .ok config ∧
      ∀ setting, config.settingValue setting = value setting := by
  rcases ofFields_cases value? with ⟨config, read, shown⟩ | ⟨bad, -⟩
  · refine ⟨config, read, fun setting => ?_⟩
    have same := shown setting
    rw [good, Except.ok.injEq] at same
    exact same.symm
  · exact absurd (fun setting => ⟨_, good setting⟩) bad

theorem ofFields_of_refused {value? : Setting → Option Json} {setting : Setting}
    {cause : Form.Cause} (refused : taken value? setting = .error cause) :
    ofFields value? = .error (Setting.all.flatMap fun setting =>
      setting.complaints (taken value? setting)) := by
  rcases ofFields_cases value? with ⟨config, -, shown⟩ | ⟨-, read⟩
  · rw [shown] at refused
    cases refused
  · exact read

/-! ## A form -/

theorem field?_toJson (config : Config) (setting : Setting) :
    config.toJson.field? setting.name = some (config.settingValue setting) := by
  cases setting <;> rfl

/-- Checking the values that checking has left changes nothing. -/
theorem ofForm_toJson (config : Config) : ofForm config.toJson = .ok config := by
  have good (setting : Setting) : taken (fun setting => config.toJson.field? setting.name) setting =
      .ok (config.settingValue setting) := by
    rw [taken, field?_toJson]
    exact config.accept_settingValue setting
  obtain ⟨read, checked, same⟩ := ofFields_of_taken good
  rw [ext_settingValue same] at checked
  exact checked

/-! ## An environment -/

theorem Setting.variableName_inj {setting other : Setting} :
    setting.variableName = other.variableName ↔ setting = other := by
  cases setting <;> cases other <;> decide

/-- An environment that holds some of the settings as texts, besides other variables. -/
def environment (config : Config) (given : List Setting) (others : String → Option String)
    (name : String) : Option String :=
  match given.find? (·.variableName = name) with
  | some setting => some (config.settingText setting)
  | none => others name

/-- What is complained about if settings are given as texts: the numbers that are too long. -/
def overlong (config : Config) (given : List Setting) : List Form.Complaint :=
  Setting.all.flatMap fun setting =>
    if setting ∈ given ∧ config.readable setting = false then
      [⟨[setting.name], .tooLargeInteger⟩]
    else []

section Environment

variable (config : Config) (given : List Setting) {others : String → Option String}

theorem environment_variableName (foreign : ∀ setting : Setting, others setting.variableName = none)
    (setting : Setting) :
    config.environment given others setting.variableName =
      if setting ∈ given then some (config.settingText setting) else none := by
  rw [environment]
  cases found : given.find? (·.variableName = setting.variableName) with
  | none =>
      have absent : setting ∉ given := by
        intro member
        simpa using List.find?_eq_none.mp found setting member
      rw [if_neg absent]
      exact foreign setting
  | some other =>
      have same : other = setting := by
        simpa [Setting.variableName_inj] using List.find?_some found
      rw [← same, if_pos (List.mem_of_find?_eq_some found)]

theorem taken_environment (foreign : ∀ setting : Setting, others setting.variableName = none)
    (setting : Setting) :
    taken (fun setting => (config.environment given others setting.variableName).map Json.text)
        setting =
      if setting ∈ given ∧ config.readable setting = false then .error .tooLargeInteger
      else .ok ((if setting ∈ given then config else standard).settingValue setting) := by
  rw [taken, environment_variableName config given foreign]
  by_cases member : setting ∈ given
  · rw [if_pos member]
    dsimp only [Option.map_some]
    rw [accept_settingText]
    cases config.readable setting <;> simp [member]
  · simp [member]

theorem ofEnvironment_of_short
    (foreign : ∀ setting : Setting, others setting.variableName = none)
    (short : ∀ setting ∈ given, config.readable setting = true) :
    ∃ read, ofEnvironment (config.environment given others) = .ok read ∧
      ∀ setting, read.settingValue setting =
        (if setting ∈ given then config else standard).settingValue setting := by
  refine ofFields_of_taken fun setting => ?_
  rw [taken_environment config given foreign, if_neg]
  rintro ⟨member, long⟩
  rw [short setting member] at long
  cases long

theorem ofEnvironment_of_long
    (foreign : ∀ setting : Setting, others setting.variableName = none)
    (long : ¬ ∀ setting ∈ given, config.readable setting = true) :
    ofEnvironment (config.environment given others) = .error (config.overlong given) := by
  have held := taken_environment config given foreign
  obtain ⟨setting, exceeds⟩ := Classical.not_forall.mp long
  obtain ⟨member, unreadable⟩ := Classical.not_imp.mp exceeds
  have refused := held setting
  rw [if_pos ⟨member, Bool.eq_false_iff.mpr unreadable⟩] at refused
  refine (ofFields_of_refused refused).trans (congrArg Except.error ?_)
  refine List.flatMap_congr fun setting _ => ?_
  rw [held]
  split
  · rfl
  · rfl

/-- Settings survive an environment: each that it holds as a text is what it was, each other one is
the standard one, and variables of other names do not matter.  Only the digits of numbers are
limited: if some number has too many, nothing is read, and exactly these numbers are complained
about.  The values that checking has left are read back, numbers of any size among them. -/
theorem settings_survive_environment
    (foreign : ∀ setting : Setting, others setting.variableName = none) :
    ((∀ setting ∈ given, config.readable setting = true) →
      ∃ read, ofEnvironment (config.environment given others) = .ok read ∧
        ∀ setting, read.settingValue setting =
          (if setting ∈ given then config else standard).settingValue setting) ∧
    (¬ (∀ setting ∈ given, config.readable setting = true) →
      ofEnvironment (config.environment given others) = .error (config.overlong given)) ∧
    ofForm config.toJson = .ok config :=
  ⟨ofEnvironment_of_short config given foreign, ofEnvironment_of_long config given foreign,
    ofForm_toJson config⟩

end Environment

def broad : Config :=
  { standard with
    saltBytes := 18446744073709551616
    secretTemplate := "\x7b\x7b \x7buser_id\x7d: 5_0 \x7d\x7d"
    logLevel := .debug
    eight_le_saltBytes := by decide
    mentions_user := by decide }

def lookalike (name : String) : Option String := if name = "CREDSTORE_" then some "8" else none

theorem settings_survive_environment_broad :
    (∀ setting : Setting, lookalike setting.variableName = none) ∧
    (∃ read,
      ofEnvironment (broad.environment [.logLevel, .secretTemplate, .saltBytes] lookalike) =
        .ok read ∧
      read.settingValue .saltBytes = .integer 18446744073709551616 ∧
      read.settingValue .logLevel = .text "DEBUG" ∧
      read.settingValue .secretTemplate = broad.settingValue .secretTemplate ∧
      read.settingValue .hashIterations = .integer 100000 ∧
      read.settingValue .exhaustiveShrinkLimit = .integer 12) ∧
    ofForm broad.toJson = .ok broad := by
  have foreign (setting : Setting) : lookalike setting.variableName = none := by
    cases setting <;> decide
  have short (setting : Setting) : broad.readable setting = true := by
    cases setting <;> decide
  obtain ⟨survives, -, again⟩ := settings_survive_environment broad
    [.logLevel, .secretTemplate, .saltBytes] foreign
  obtain ⟨read, checked, same⟩ := survives fun setting _ => short setting
  exact ⟨foreign, ⟨read, checked, same .saltBytes, same .logLevel, same .secretTemplate,
    same .hashIterations, same .exhaustiveShrinkLimit⟩, again⟩

/-- A number of one digit more than are converted is not read back. -/
theorem long_number_refused :
    ofEnvironment (environment { exhaustiveShrinkLimit := Nat.pow 10 Text.digitLimit }
        [.exhaustiveShrinkLimit] fun _ => none) =
      .error [⟨["exhaustive_shrink_limit"], .tooLargeInteger⟩] := by
  have long := Text.lt_length_toDigits_pow Text.digitLimit (by decide)
  generalize Nat.pow 10 Text.digitLimit = n at long ⊢
  have unreadable : readable { exhaustiveShrinkLimit := n } .exhaustiveShrinkLimit = false :=
    decide_eq_false (Nat.not_le.mpr long)
  rw [ofEnvironment_of_long _ _ fun _ => rfl]
  · simp [overlong, Setting.all, unreadable, Setting.name]
  · simp [unreadable]

end Config

end Gatekeeper
