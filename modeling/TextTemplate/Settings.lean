import TextTemplate.Text.Numeral

/-
  Settings taken from the environment.

  Each setting is a number that is not negative.  A variable
  that is absent or empty leaves the setting as it is.

  Key definitions include:
    * `Environment`
    * `Settings`
    * `SettingError`
    * `Settings.read`
-/

------------------------------------------------------------
-- Variables
------------------------------------------------------------

namespace TextTemplate

/- The variables of an environment with their texts. -/
abbrev Environment : Type :=
  List (String × String)

/- A variable whose text is not a setting. -/
structure SettingError where
  variableName : String
  raw : String
  deriving DecidableEq

namespace SettingError

/- The wording for a text that is not a setting. -/
def message
    (error : SettingError) : String :=
  error.variableName ++ ": " ++ error.raw

end SettingError

/- The setting that a text stands for. -/
def settingOf?
    (raw : String) : Option Nat :=
  match Numeral.read? raw with
  | some (.ofNat value) => some value
  | _ => none

end TextTemplate

------------------------------------------------------------
-- Settings
------------------------------------------------------------

namespace TextTemplate

/- The budget of each search and the degree of verbosity. -/
structure Settings where
  maxSteps : Option Nat
  verbosity : Nat
  deriving DecidableEq

namespace Settings

/- The settings of an environment without variables. -/
def initial : Settings :=
  ⟨none, 0⟩

/- The variable that gives the budget. -/
def maxStepsVariable : String :=
  "FIELDSCAN_MAX_STEPS"

/- The variable that gives the degree of verbosity. -/
def verbosityVariable : String :=
  "FIELDSCAN_VERBOSE"

/- The setting of a variable, unless it is absent or empty. -/
def readVariable
    (environment : Environment)
    (name : String) :
    Except SettingError (Option Nat) :=
  match environment.lookup name with
  | none => .ok none
  | some raw =>
      if raw = "" then
        .ok none
      else
        match settingOf? raw with
        | some value => .ok (some value)
        | none => .error ⟨name, raw⟩

/- Read all settings, the budget first. -/
def read
    (environment : Environment) :
    Except SettingError Settings := do
  let maxSteps ← readVariable environment maxStepsVariable
  let verbosity ←
    readVariable environment verbosityVariable
  return ⟨maxSteps <|> initial.maxSteps,
    verbosity.getD initial.verbosity⟩

end Settings

end TextTemplate
