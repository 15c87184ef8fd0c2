import TextTemplate.Proofs.CommandLine.Agreement
import TextTemplate.Proofs.Text.Numeral

/-
  Which settings an environment gives.

  A variable that is absent or empty gives nothing, and one
  whose text spells a number that is not negative gives this
  number.  Any other text spoils the settings.  No other
  variable has an influence.

  Main declarations:
    * `settingOf?_eq_some_iff`
    * `Environment.Gives`
    * `Environment.Spoils`
    * `Environment.FirstSpoiled`
    * `Settings.read_eq_ok_iff`
    * `Settings.read_eq_error_iff`
    * `Settings.read_spelled_numbers`
-/

------------------------------------------------------------
-- Given Numbers
------------------------------------------------------------

namespace TextTemplate

/- A text is a setting if it spells a natural number. -/
theorem settingOf?_eq_some_iff
    {raw : String}
    {number : Nat} :
    settingOf? raw = some number ↔
      Numeral.Spells raw number := by
  rw [← Numeral.read?_eq_some_iff]
  constructor
  · exact read?_of_settingOf?
  · intro hRead
    rw [settingOf?, hRead]

/- A text is no setting if it spells no natural number. -/
theorem settingOf?_eq_none_iff
    {raw : String} :
    settingOf? raw = none ↔
      ∀ number : Nat, ¬ Numeral.Spells raw number := by
  rw [Option.eq_none_iff_forall_ne_some]
  simp only [Ne, settingOf?_eq_some_iff]

namespace Environment

/-
  What a variable gives: nothing if it is absent or empty,
  and else the natural number that its text spells.
-/
inductive Gives
    (environment : Environment)
    (name : String) : Option Nat → Prop where
  | absent
      (hAbsent : environment.lookup name = none) :
      Gives environment name none
  | empty
      (hEmpty : environment.lookup name = some "") :
      Gives environment name none
  | number
      {raw : String}
      {number : Nat}
      (hSets : environment.Sets name raw)
      (hSpells : Numeral.Spells raw number) :
      Gives environment name (some number)

/-
  Whether the text of a variable is not empty and spells no
  natural number.
-/
def Spoils
    (environment : Environment)
    (name raw : String) : Prop :=
  environment.Sets name raw ∧
    ∀ number : Nat, ¬ Numeral.Spells raw number

/- The first variable that spoils the settings. -/
inductive FirstSpoiled
    (environment : Environment) : SettingError → Prop where
  | maxSteps
      {raw : String}
      (hSpoils :
        environment.Spoils Settings.maxStepsVariable raw) :
      FirstSpoiled environment
        ⟨Settings.maxStepsVariable, raw⟩
  | verbosity
      {raw : String}
      (hMaxSteps : ∀ other,
        ¬ environment.Spoils Settings.maxStepsVariable
          other)
      (hSpoils :
        environment.Spoils Settings.verbosityVariable raw) :
      FirstSpoiled environment
        ⟨Settings.verbosityVariable, raw⟩

end Environment

end TextTemplate

------------------------------------------------------------
-- Reading Settings
------------------------------------------------------------

namespace TextTemplate

namespace Settings

variable {environment : Environment}
variable {name : String}

/- A variable is read as what it gives. -/
theorem readVariable_of_gives
    {setting : Option Nat}
    (hGives : environment.Gives name setting) :
    readVariable environment name = .ok setting := by
  cases hGives with
  | absent hAbsent => simp only [readVariable, hAbsent]
  | empty hEmpty =>
      simp only [readVariable, hEmpty, if_true]
  | number hSets hSpells =>
      exact readVariable_of_sets hSets
        (settingOf?_eq_some_iff.mpr hSpells)

/- A variable that spoils the settings is reported. -/
theorem readVariable_of_spoils
    {raw : String}
    (hSpoils : environment.Spoils name raw) :
    readVariable environment name =
      .error ⟨name, raw⟩ := by
  rcases hSpoils with ⟨⟨hRaw, hSome⟩, hNone⟩
  rw [← settingOf?_eq_none_iff] at hNone
  simp only [readVariable, hRaw, if_neg hSome, hNone]

/- A variable gives something or spoils the settings. -/
theorem gives_or_spoils
    (environment : Environment)
    (name : String) :
    (∃ setting, environment.Gives name setting) ∨
      ∃ raw, environment.Spoils name raw := by
  cases hLookup : environment.lookup name with
  | none => exact .inl ⟨none, .absent hLookup⟩
  | some raw =>
      by_cases hEmpty : raw = ""
      · exact .inl ⟨none, .empty (hEmpty ▸ hLookup)⟩
      · have hSets : environment.Sets name raw :=
          ⟨hLookup, hEmpty⟩
        cases hRaw : settingOf? raw with
        | none =>
            exact .inr ⟨raw, hSets,
              settingOf?_eq_none_iff.mp hRaw⟩
        | some number =>
            exact .inl ⟨some number, .number hSets
              (settingOf?_eq_some_iff.mp hRaw)⟩

/- A variable that gives something does not spoil them. -/
theorem not_spoils_of_gives
    {setting : Option Nat}
    {raw : String}
    (hGives : environment.Gives name setting) :
    ¬ environment.Spoils name raw := by
  intro hSpoils
  have hRead := readVariable_of_gives hGives
  rw [readVariable_of_spoils hSpoils] at hRead
  exact nomatch hRead

/- The settings that the two variables give. -/
theorem read_of_gives
    {limit degree : Option Nat}
    (hLimit : environment.Gives maxStepsVariable limit)
    (hDegree :
      environment.Gives verbosityVariable degree) :
    read environment =
      .ok ⟨limit <|> initial.maxSteps,
        degree.getD initial.verbosity⟩ := by
  rw [read, readVariable_of_gives hLimit,
    readVariable_of_gives hDegree]
  rfl

/- The variable that spoils the settings is reported. -/
theorem read_of_firstSpoiled
    {error : SettingError}
    (hFirst : environment.FirstSpoiled error) :
    read environment = .error error := by
  cases hFirst with
  | maxSteps hSpoils =>
      exact read_of_limit_error
        (readVariable_of_spoils hSpoils)
  | verbosity hMaxSteps hSpoils =>
      rcases gives_or_spoils environment maxStepsVariable
        with ⟨limit, hLimit⟩ | ⟨other, hOther⟩
      · exact read_of_degree_error
          (readVariable_of_gives hLimit)
          (readVariable_of_spoils hSpoils)
      · exact absurd hOther (hMaxSteps other)

/- Both variables give something or one is reported. -/
theorem give_or_firstSpoiled
    (environment : Environment) :
    (∃ limit degree,
      environment.Gives maxStepsVariable limit ∧
        environment.Gives verbosityVariable degree) ∨
      ∃ error, environment.FirstSpoiled error := by
  rcases gives_or_spoils environment maxStepsVariable with
    ⟨limit, hLimit⟩ | ⟨raw, hSpoils⟩
  · rcases gives_or_spoils environment verbosityVariable
      with ⟨degree, hDegree⟩ | ⟨raw, hSpoils⟩
    · exact .inl ⟨limit, degree, hLimit, hDegree⟩
    · exact .inr ⟨_, .verbosity
        (fun _ => not_spoils_of_gives hLimit) hSpoils⟩
  · exact .inr ⟨_, .maxSteps hSpoils⟩

/-
  There are settings if both variables give something, and
  they are what is given or else the initial ones.
-/
theorem read_eq_ok_iff
    {settings : Settings} :
    read environment = .ok settings ↔
      ∃ limit degree,
        environment.Gives maxStepsVariable limit ∧
          environment.Gives verbosityVariable degree ∧
          settings =
            ⟨limit <|> initial.maxSteps,
              degree.getD initial.verbosity⟩ := by
  constructor
  · intro hRead
    rcases give_or_firstSpoiled environment with
      ⟨limit, degree, hLimit, hDegree⟩ | ⟨error, hFirst⟩
    · rw [read_of_gives hLimit hDegree] at hRead
      injection hRead with hSame
      exact ⟨limit, degree, hLimit, hDegree, hSame.symm⟩
    · rw [read_of_firstSpoiled hFirst] at hRead
      exact nomatch hRead
  · rintro ⟨limit, degree, hLimit, hDegree, rfl⟩
    exact read_of_gives hLimit hDegree

/- Else the first variable that spoils them is reported. -/
theorem read_eq_error_iff
    {error : SettingError} :
    read environment = .error error ↔
      environment.FirstSpoiled error := by
  constructor
  · intro hRead
    rcases give_or_firstSpoiled environment with
      ⟨limit, degree, hLimit, hDegree⟩ | ⟨first, hFirst⟩
    · rw [read_of_gives hLimit hDegree] at hRead
      exact nomatch hRead
    · rw [read_of_firstSpoiled hFirst] at hRead
      injection hRead with hSame
      exact hSame ▸ hFirst
  · exact read_of_firstSpoiled

/-
  The settings depend on two variables only.  There are
  settings just if each of the two is absent, empty or
  spells a natural number, and they are the spelled numbers
  with the initial settings in place of what is not given.
  Otherwise the error has the name and the text of the first
  variable that spells no natural number.
-/
theorem read_spelled_numbers
    (environment : Environment) :
    (∀ other : Environment,
      other.AgreeOn environment maxStepsVariable →
      other.AgreeOn environment verbosityVariable →
        read other = read environment) ∧
    (∀ settings,
      read environment = .ok settings ↔
        ∃ limit degree,
          environment.Gives maxStepsVariable limit ∧
            environment.Gives verbosityVariable degree ∧
            settings =
              ⟨limit <|> initial.maxSteps,
                degree.getD initial.verbosity⟩) ∧
    ∀ error,
      read environment = .error error ↔
        environment.FirstSpoiled error := by
  refine
    ⟨?_, fun _ => read_eq_ok_iff,
      fun _ => read_eq_error_iff⟩
  intro other hLimit hDegree
  rw [read, read, readVariable_congr hLimit,
    readVariable_congr hDegree]

/-
  A budget with a digit of another script and a degree of
  minus zero are read, whatever other variables say.  Of two
  texts that spell no natural number, that of the budget is
  reported.
-/
theorem read_spelled_numbers_two_scripts :
    read
        [("PATH", "-1"), (maxStepsVariable, " +1_\u0660\t"),
          (verbosityVariable, "-0")] =
      .ok ⟨some 10, 0⟩ ∧
    read
        [(verbosityVariable, "-1"),
          (maxStepsVariable, "1__0")] =
      .error ⟨maxStepsVariable, "1__0"⟩ := by
  have hBudget : Numeral.Spells " +1_\u0660\t" (10 : Nat) :=
    Numeral.read?_eq_some_iff.mp (by decide +kernel)
  have hDegree : Numeral.Spells "-0" (0 : Nat) :=
    Numeral.read?_eq_some_iff.mp (by decide +kernel)
  have hNone :
      ∀ number : Nat, ¬ Numeral.Spells "1__0" number :=
    settingOf?_eq_none_iff.mp (by decide +kernel)
  have hOther :=
    (read_spelled_numbers
      [(maxStepsVariable, " +1_\u0660\t"),
        (verbosityVariable, "-0")]).1
      [("PATH", "-1"), (maxStepsVariable, " +1_\u0660\t"),
        (verbosityVariable, "-0")] rfl rfl
  refine ⟨hOther.trans ?_, ?_⟩
  · exact
      ((read_spelled_numbers _).2.1 _).mpr
        ⟨some 10, some 0,
          .number ⟨by decide, by decide⟩ hBudget,
          .number ⟨by decide, by decide⟩ hDegree, rfl⟩
  · exact
      ((read_spelled_numbers _).2.2 _).mpr
        (.maxSteps ⟨⟨by decide, by decide⟩, hNone⟩)

end Settings

end TextTemplate
