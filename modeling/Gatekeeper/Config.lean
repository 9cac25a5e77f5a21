import Gatekeeper.Form.Field
import Gatekeeper.Log
import Gatekeeper.Template.Render

/-!
# Configuration

The settings shared by the store, the service and the harness, with what is
promised about them.  They are read from a form or from the variables of an
environment; an absent setting has its default.
-/

namespace Gatekeeper

structure Config where
  hashIterations : Nat := 100000
  saltBytes : Nat := 16
  secretTemplate : String := "Secrets for user \x7buser_id\x7d"
  logLevel : Log.Level := .warning
  exhaustiveShrinkLimit : Nat := 12
  iterations_pos : 1 ≤ hashIterations := by decide
  eight_le_saltBytes : 8 ≤ saltBytes := by decide
  mentions_user : Template.mentionsValue secretTemplate = true := by decide

namespace Config

/-- The settings of a store that nothing is said about. -/
def standard : Config := {}

instance : Inhabited Config := ⟨standard⟩

/-- The settings of the harness: the cost of hashing does not matter to what it checks. -/
def simulation : Config := { hashIterations := 10 }

inductive Setting where
  | hashIterations
  | saltBytes
  | secretTemplate
  | logLevel
  | exhaustiveShrinkLimit
deriving DecidableEq, Repr

namespace Setting

def all : List Setting :=
  [hashIterations, saltBytes, secretTemplate, logLevel, exhaustiveShrinkLimit]

def name : Setting → String
  | hashIterations => "hash_iterations"
  | saltBytes => "salt_bytes"
  | secretTemplate => "secret_template"
  | logLevel => "log_level"
  | exhaustiveShrinkLimit => "exhaustive_shrink_limit"

def variableName : Setting → String
  | hashIterations => "CREDSTORE_HASH_ITERATIONS"
  | saltBytes => "CREDSTORE_SALT_BYTES"
  | secretTemplate => "CREDSTORE_SECRET_TEMPLATE"
  | logLevel => "CREDSTORE_LOG_LEVEL"
  | exhaustiveShrinkLimit => "CREDSTORE_EXHAUSTIVE_SHRINK_LIMIT"

end Setting

def readTemplate (value : Json) :
    Except Form.Cause { s : String // Template.mentionsValue s = true } :=
  match Form.text value with
  | .error cause => .error cause
  | .ok s =>
      if h : Template.mentionsValue s = true then .ok ⟨s, h⟩
      else .error (.rejected "secret_template must contain '\x7buser_id\x7d'")

/-- A level, whatever the case of its letters. -/
def readLevel (value : Json) : Except Form.Cause Log.Level :=
  match Form.text value with
  | .error cause => .error cause
  | .ok s =>
      match Log.Level.ofName? (Text.upperCase s) with
      | some level => .ok level
      | none => .error (.rejected ("Unknown log level: " ++ s))

def ofFields (value? : Setting → Option Json) : Checked Config :=
  let given {α : Type} (setting : Setting) (default : α) (reader : Json → Except Form.Cause α) :
      Checked α :=
    Form.field (fun _ => value? setting) setting.name (some default) reader
  let iterations := given .hashIterations ⟨100000, by decide⟩ (Form.natural 1)
  let salt := given .saltBytes ⟨16, by decide⟩ (Form.natural 8)
  let template :=
    given .secretTemplate ⟨standard.secretTemplate, standard.mentions_user⟩ readTemplate
  let level := given .logLevel standard.logLevel readLevel
  let limit := given .exhaustiveShrinkLimit ⟨12, Nat.zero_le 12⟩ (Form.natural 0)
  match iterations, salt, template, level, limit with
  | .ok iterations, .ok salt, .ok template, .ok level, .ok limit => .ok {
      hashIterations := iterations.val
      saltBytes := salt.val
      secretTemplate := template.val
      logLevel := level
      exhaustiveShrinkLimit := limit.val
      iterations_pos := iterations.property
      eight_le_saltBytes := salt.property
      mentions_user := template.property }
  | iterations, salt, template, level, limit =>
      .error (iterations.complaints ++ salt.complaints ++ template.complaints ++ level.complaints
        ++ limit.complaints)

/-- Check a form; fields that are no settings are ignored. -/
def ofForm : Json → Checked Config :=
  Form.ofObject (.notRecord "StoreConfig") fun field? => ofFields fun setting => field? setting.name

/-- Check the variables of an environment; the others are ignored. -/
def ofEnvironment (valueOf? : String → Option String) : Checked Config :=
  ofFields fun setting => (valueOf? setting.variableName).map Json.text

/-- The value of a setting as text, as it is put into an environment. -/
def settingText (config : Config) : Setting → String
  | .hashIterations => toString config.hashIterations
  | .saltBytes => toString config.saltBytes
  | .secretTemplate => config.secretTemplate
  | .logLevel => config.logLevel.name
  | .exhaustiveShrinkLimit => toString config.exhaustiveShrinkLimit

def settingValue (config : Config) : Setting → Json
  | .hashIterations => .integer config.hashIterations
  | .saltBytes => .integer config.saltBytes
  | .secretTemplate => .text config.secretTemplate
  | .logLevel => .text config.logLevel.name
  | .exhaustiveShrinkLimit => .integer config.exhaustiveShrinkLimit

def toJson (config : Config) : Json :=
  .object (Setting.all.map fun setting => (setting.name, config.settingValue setting))

end Config

end Gatekeeper
