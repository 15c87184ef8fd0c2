import Mathlib.Data.List.Basic
import TextTemplate.Proofs.CommandLine.Runs
import TextTemplate.Proofs.CommandLine.Spelling

/-
  What the environment and the options say alike.

  A budget may be given by a variable or by an option.  If
  there are both, the option decides.  The verbosity is what
  its variable says and the number of verbose options
  together.

  Main declarations:
    * `Environment.Sets`
    * `Environment.Invalid`
    * `Environment.AgreeOn`
    * `GivenOption.besides`
    * `GivenOption.count`
    * `Draft.raise`
    * `Draft.withBudget`
    * `Draft.noteAll_verbose`
    * `Draft.noteAll_budget_option`
    * `Argument.read_spelling_value`
    * `settings_agree_with_flags`
-/

------------------------------------------------------------
-- Variables
------------------------------------------------------------

namespace TextTemplate

namespace Environment

/- Whether a variable is set to a text that is not empty. -/
def Sets
    (environment : Environment)
    (name raw : String) : Prop :=
  environment.lookup name = some raw ∧ raw ≠ ""

/- Whether a variable is set to a text that is no setting. -/
def Invalid
    (environment : Environment)
    (name : String) : Prop :=
  ∃ raw, environment.Sets name raw ∧ settingOf? raw = none

/- Whether environments have the same text for a variable. -/
def AgreeOn
    (environment other : Environment)
    (name : String) : Prop :=
  environment.lookup name = other.lookup name

end Environment

/- A text that is a setting is a number. -/
theorem read?_of_settingOf?
    {raw : String}
    {value : Nat}
    (hRaw : settingOf? raw = some value) :
    Numeral.read? raw = some (value : Int) := by
  unfold settingOf? at hRaw
  split at hRaw
  · rename_i hRead
    rw [hRead, ← Option.some.inj hRaw]
    rfl
  · exact nomatch hRaw

namespace Settings

/- A variable is read alike where environments agree. -/
theorem readVariable_congr
    {environment environment' : Environment}
    {name : String}
    (hAgree : environment'.AgreeOn environment name) :
    readVariable environment' name =
      readVariable environment name := by
  unfold Environment.AgreeOn at hAgree
  simp only [readVariable, hAgree]

/- A variable with a setting is read as the setting. -/
theorem readVariable_of_sets
    {environment : Environment}
    {name raw : String}
    {value : Nat}
    (hSets : environment.Sets name raw)
    (hValue : settingOf? raw = some value) :
    readVariable environment name = .ok (some value) := by
  simp only [readVariable, hSets.1, if_neg hSets.2, hValue]

/- A variable cannot be read exactly if it is invalid. -/
theorem readVariable_eq_error_iff
    {environment : Environment}
    {name : String} :
    (∃ error, readVariable environment name = .error error) ↔
      environment.Invalid name := by
  constructor
  · rintro ⟨error, hError⟩
    unfold readVariable at hError
    split at hError
    · exact nomatch hError
    · rename_i raw hRaw
      split at hError
      · exact nomatch hError
      · rename_i hSome
        split at hError
        · exact nomatch hError
        · rename_i hNone
          exact ⟨raw, ⟨hRaw, hSome⟩, hNone⟩
  · rintro ⟨raw, hSets, hNone⟩
    simp only [readVariable, hSets.1, if_neg hSets.2, hNone]
    exact ⟨_, rfl⟩

/- A variable that is not invalid is read. -/
theorem exists_readVariable
    {environment : Environment}
    {name : String}
    (hValid : ¬environment.Invalid name) :
    ∃ value, readVariable environment name = .ok value := by
  cases hRead : readVariable environment name with
  | ok value => exact ⟨value, rfl⟩
  | error error =>
      exact (hValid
        (readVariable_eq_error_iff.mp ⟨error, hRead⟩)).elim

/- The settings are what the two variables say. -/
theorem read_of_readVariable
    {environment : Environment}
    {limit degree : Option Nat}
    (hLimit :
      readVariable environment maxStepsVariable = .ok limit)
    (hDegree :
      readVariable environment verbosityVariable =
        .ok degree) :
    read environment = .ok ⟨limit, degree.getD 0⟩ := by
  rw [read, hLimit, hDegree]
  cases limit <;> rfl

/- The first variable that cannot be read is reported. -/
theorem read_of_limit_error
    {environment : Environment}
    {error : SettingError}
    (hLimit :
      readVariable environment maxStepsVariable =
        .error error) :
    read environment = .error error := by
  rw [read, hLimit]
  rfl

theorem read_of_degree_error
    {environment : Environment}
    {limit : Option Nat}
    {error : SettingError}
    (hLimit :
      readVariable environment maxStepsVariable = .ok limit)
    (hDegree :
      readVariable environment verbosityVariable =
        .error error) :
    read environment = .error error := by
  rw [read, hLimit, hDegree]
  rfl

/- There are no settings if a variable is invalid. -/
theorem read_of_invalid
    {environment : Environment}
    (hInvalid :
      environment.Invalid maxStepsVariable ∨
        environment.Invalid verbosityVariable) :
    ∃ error, read environment = .error error := by
  cases hLimit :
      readVariable environment maxStepsVariable with
  | error error =>
      exact ⟨error, read_of_limit_error hLimit⟩
  | ok limit =>
      have hVerbosity :
          environment.Invalid verbosityVariable := by
        apply hInvalid.resolve_left
        intro hBudget
        rcases readVariable_eq_error_iff.mpr hBudget with
          ⟨error, hError⟩
        rw [hLimit] at hError
        exact nomatch hError
      rcases readVariable_eq_error_iff.mpr hVerbosity with
        ⟨error, hError⟩
      exact ⟨error, read_of_degree_error hLimit hError⟩

end Settings

end TextTemplate

------------------------------------------------------------
-- Independent Options
------------------------------------------------------------

namespace TextTemplate

namespace GivenOption

/- The options other than those of a flag. -/
def besides
    (flag : Flag)
    (given : List GivenOption) : List GivenOption :=
  given.filter fun option => option.flag? ≠ some flag

/- How often the option of a flag is given. -/
def count
    (flag : Flag)
    (given : List GivenOption) : Nat :=
  given.countP fun option => option.flag? = some flag

/- An option is given or it is not. -/
theorem count_eq_zero_iff
    {flag : Flag}
    {given : List GivenOption} :
    count flag given = 0 ↔
      ∀ option ∈ given, option.flag? ≠ some flag := by
  rw [count, List.countP_eq_zero]
  simp only [decide_eq_true_eq, ne_eq]

theorem count_pos_iff
    {flag : Flag}
    {given : List GivenOption} :
    0 < count flag given ↔
      ∃ option ∈ given, option.flag? = some flag := by
  rw [count, List.countP_pos_iff]
  simp only [decide_eq_true_eq]

end GivenOption

namespace Draft

/- A draft that is more verbose by a degree. -/
def raise
    (draft : Draft)
    (degree : Nat) : Draft :=
  { draft with verbosity := draft.verbosity + degree }

/- A draft with another budget. -/
def withBudget
    (draft : Draft)
    (limit : Option Int) : Draft :=
  { draft with maxSteps := limit }

/- No option asks how verbose a draft is. -/
theorem note_raise
    (draft : Draft)
    (degree : Nat)
    (option : GivenOption) :
    (draft.raise degree).note option =
      (draft.note option).map (·.raise degree) := by
  cases option with
  | misused error => rfl
  | unknown text => rfl
  | known flag value =>
      cases flag with
      | help => rfl
      | logFile => rfl
      | verbose =>
          simp only [note, apply, raise, Except.map]
          rw [Nat.add_right_comm]
      | maxSteps =>
          simp only [note, apply]
          cases Numeral.read? value <;> rfl

theorem raise_raise
    (draft : Draft)
    (degree more : Nat) :
    (draft.raise degree).raise more =
      draft.raise (degree + more) := by
  simp only [raise, Nat.add_assoc]

/- No option asks what the budget of a draft is. -/
theorem note_withBudget
    (draft : Draft)
    (limit : Option Int)
    {option : GivenOption}
    (hFlag : option.flag? ≠ some .maxSteps) :
    (draft.withBudget limit).note option =
      (draft.note option).map (·.withBudget limit) := by
  cases option with
  | misused error => rfl
  | unknown text => rfl
  | known flag value =>
      cases flag with
      | help => rfl
      | logFile => rfl
      | verbose => rfl
      | maxSteps => exact (hFlag rfl).elim

/- The option for the budget goes over the one before. -/
theorem note_withBudget_of_maxSteps
    (draft : Draft)
    (limit : Option Int)
    {option : GivenOption}
    (hFlag : option.flag? = some .maxSteps) :
    (draft.withBudget limit).note option =
      draft.note option := by
  cases option with
  | misused error => exact nomatch hFlag
  | unknown text => exact nomatch hFlag
  | known flag value =>
      obtain rfl : flag = .maxSteps := Option.some.inj hFlag
      simp only [note, apply, withBudget]

/- Of the verbose options only the number matters. -/
theorem noteAll_verbose
    (given : List GivenOption)
    (draft : Draft) :
    noteAll given draft =
      noteAll (GivenOption.besides .verbose given)
        (draft.raise (GivenOption.count .verbose given)) := by
  induction given generalizing draft with
  | nil => rfl
  | cons option later ih =>
      by_cases hFlag : option.flag? = some .verbose
      · have hBesides :
            GivenOption.besides .verbose (option :: later) =
              GivenOption.besides .verbose later :=
          List.filter_cons_of_neg (by simpa using hFlag)
        have hCount :
            GivenOption.count .verbose (option :: later) =
              GivenOption.count .verbose later + 1 :=
          List.countP_cons_of_pos (by simpa using hFlag)
        have hNote :
            draft.note option = .ok (draft.raise 1) := by
          cases option with
          | misused error => exact nomatch hFlag
          | unknown text => exact nomatch hFlag
          | known flag value =>
              obtain rfl : flag = .verbose :=
                Option.some.inj hFlag
              rfl
        rw [noteAll_cons, hNote, hBesides, hCount,
          Nat.add_comm, ← raise_raise]
        exact ih (draft.raise 1)
      · have hBesides :
            GivenOption.besides .verbose (option :: later) =
              option :: GivenOption.besides .verbose later :=
          List.filter_cons_of_pos (by simpa using hFlag)
        have hCount :
            GivenOption.count .verbose (option :: later) =
              GivenOption.count .verbose later :=
          List.countP_cons_of_neg (by simpa using hFlag)
        rw [noteAll_cons, hBesides, hCount, noteAll_cons,
          note_raise]
        cases draft.note option with
        | error stop => rfl
        | ok next => exact ih next

/- A budget stays if no option sets it. -/
theorem noteAll_withBudget
    {given : List GivenOption}
    (hGiven : ∀ option ∈ given,
      option.flag? ≠ some .maxSteps)
    (draft : Draft)
    (limit : Option Int) :
    noteAll given (draft.withBudget limit) =
      (noteAll given draft).map (·.withBudget limit) := by
  induction given generalizing draft with
  | nil => rfl
  | cons option later ih =>
      rcases List.forall_mem_cons.mp hGiven with
        ⟨hFirst, hLater⟩
      rw [noteAll_cons, noteAll_cons,
        draft.note_withBudget limit hFirst]
      cases draft.note option with
      | error stop => rfl
      | ok next => exact ih hLater next

/- A budget that an option sets was of no use before. -/
theorem noteAll_withBudget_of_mem
    {given : List GivenOption}
    (hGiven : ∃ option ∈ given,
      option.flag? = some .maxSteps)
    (draft : Draft)
    (limit : Option Int) :
    noteAll given (draft.withBudget limit) =
      noteAll given draft := by
  induction given generalizing draft with
  | nil => exact absurd hGiven (by simp)
  | cons option later ih =>
      rw [noteAll_cons, noteAll_cons]
      by_cases hFlag : option.flag? = some .maxSteps
      · rw [draft.note_withBudget_of_maxSteps limit hFlag]
      · have hLater : ∃ option ∈ later,
            option.flag? = some .maxSteps := by
          simpa [hFlag] using hGiven
        rw [draft.note_withBudget limit hFlag]
        cases draft.note option with
        | error stop => rfl
        | ok next => exact ih hLater next

/-
  A budget at the beginning does the same as an option after
  options that do not set it.
-/
theorem noteAll_budget_option
    {given : List GivenOption}
    (hGiven : ∀ option ∈ given,
      option.flag? ≠ some .maxSteps)
    {raw : String}
    {limit : Nat}
    (hRaw : settingOf? raw = some limit)
    (draft : Draft) :
    noteAll given (draft.withBudget (some limit)) =
      noteAll (given ++ [.known .maxSteps raw]) draft := by
  have hNumber := read?_of_settingOf? hRaw
  rw [noteAll_append, draft.noteAll_withBudget hGiven]
  cases noteAll given draft with
  | error stop => rfl
  | ok next =>
      change _ = noteAll [.known .maxSteps raw] next
      rw [noteAll_singleton, note, apply, hNumber]
      rfl

end Draft

end TextTemplate

------------------------------------------------------------
-- Equivalent Arguments
------------------------------------------------------------

namespace TextTemplate

namespace Argument

/- A text is split at its first equals sign. -/
theorem splitValue_append
    {name : List Char}
    (hName : name.all (· != '=') = true)
    (value : List Char) :
    splitValue (name ++ '=' :: value) =
      (String.ofList name, some (String.ofList value)) := by
  have hOther := List.all_eq_true.mp hName
  rw [splitValue, List.dropWhile_append_of_pos hOther,
    List.takeWhile_append_of_pos hOther]
  simp

/- A hyphenated text that is no spelling is read as such. -/
theorem read_of_ofText?
    {text : String}
    (hHead : text.toList.head? = some '-')
    (hHyphen : text ≠ "-")
    (hText : Spelling.ofText? text = none) :
    read text = readHyphenated text := by
  have hPlain :
      ¬((text.toList.head? != some '-' ||
        decide (text = "-")) = true) := by
    simp [hHead, hHyphen]
  simp only [read, if_neg hPlain, hText]

/- A spelling and a value with an equals sign between. -/
theorem read_spelling_value
    {spelling : Spelling}
    (hSpelling : spelling ∈ Spelling.all)
    (value : String) :
    read (spelling.text ++ "=" ++ value) =
      .ok (.option spelling (some value)) := by
  have hSpellings : ∀ spelling ∈ Spelling.all,
      spelling.text.toList.all (· != '=') = true ∧
        spelling.text.toList.head? = some '-' ∧
        Spelling.ofText? spelling.text = some spelling := by
    decide +kernel
  rcases hSpellings spelling hSpelling with
    ⟨hName, hHead, hText⟩
  have hChars : (spelling.text ++ "=" ++ value).toList =
      spelling.text.toList ++ '=' :: value.toList := by
    simp
  have hNone :
      Spelling.ofText? (spelling.text ++ "=" ++ value) =
        none := by
    apply List.find?_eq_none.mpr
    intro other hOther hSame
    have hEquals := (hSpellings other hOther).1
    rw [of_decide_eq_true hSame, hChars] at hEquals
    simp at hEquals
  have hHyphen : spelling.text ++ "=" ++ value ≠ "-" := by
    intro hSame
    have hMem : '=' ∈ "-".toList := by
      rw [← hSame, hChars]
      simp
    exact absurd hMem (by decide)
  have hFirst :
      (spelling.text ++ "=" ++ value).toList.head? =
        some '-' := by
    rw [hChars, List.head?_append, hHead]
    rfl
  rw [read_of_ofText? hFirst hHyphen hNone, readHyphenated,
    hChars, splitValue_append hName]
  simp only [String.ofList_toList, hText]

end Argument

namespace Spells

/- The option for the budget with its value. -/
theorem budget
    (raw : String) :
    Spells ["--max-steps=" ++ raw]
      [.known .maxSteps raw] := by
  have hSpelling :
      (⟨"--max-steps", .maxSteps⟩ : Spelling) ∈
        Spelling.all := by
    decide +kernel
  have hWord := Argument.read_spelling_value hSpelling raw
  exact .joined hWord .done

end Spells

end TextTemplate

------------------------------------------------------------
-- Equivalent Runs
------------------------------------------------------------

namespace TextTemplate

namespace Session

/- Runs that read the same options are the same. -/
theorem run_congr
    (session : Session)
    {environment environment' : Environment}
    {settings settings' : Settings}
    {arguments arguments' : List String}
    (hSettings : Settings.read environment = .ok settings)
    (hSettings' :
      Settings.read environment' = .ok settings')
    (hRead :
      Options.read settings arguments =
        Options.read settings' arguments') :
    session.run environment arguments =
      session.run environment' arguments' := by
  simp only [run, hSettings, hSettings', hRead]

/-
  Runs whose environments agree on the verbosity are the
  same if they are for each degree of it.
-/
theorem run_congr_of_limits
    (session : Session)
    {environment environment' : Environment}
    {limit limit' : Option Nat}
    {arguments arguments' : List String}
    (hLimit :
      Settings.readVariable environment
        Settings.maxStepsVariable = .ok limit)
    (hLimit' :
      Settings.readVariable environment'
        Settings.maxStepsVariable = .ok limit')
    (hVerbosity :
      environment'.AgreeOn environment
        Settings.verbosityVariable)
    (hRead : ∀ degree,
      Options.read ⟨limit, degree⟩ arguments =
        Options.read ⟨limit', degree⟩ arguments') :
    session.run environment arguments =
      session.run environment' arguments' := by
  have hSame := Settings.readVariable_congr hVerbosity
  cases hDegree : Settings.readVariable environment
      Settings.verbosityVariable with
  | ok degree =>
      rw [hDegree] at hSame
      exact session.run_congr
        (Settings.read_of_readVariable hLimit hDegree)
        (Settings.read_of_readVariable hLimit' hSame)
        (hRead _)
  | error error =>
      rw [hDegree] at hSame
      have hError := Settings.read_of_degree_error hLimit
        hDegree
      have hError' := Settings.read_of_degree_error hLimit'
        hSame
      rw [session.run_of_no_settings hError,
        session.run_of_no_settings hError']

/-
  A budget in the environment does the same as an option,
  wherever the option stands among others.
-/
theorem run_budget_option
    (session : Session)
    {environment environment' : Environment}
    {raw : String}
    (hSets :
      environment.Sets Settings.maxStepsVariable raw)
    (hRaw : (settingOf? raw).isSome)
    (hUnset :
      environment'.lookup Settings.maxStepsVariable = none)
    (hVerbosity :
      environment'.AgreeOn environment
        Settings.verbosityVariable)
    {words : List String}
    {given : List GivenOption}
    (hSpells : Spells words given)
    (hGiven : GivenOption.count .maxSteps given = 0)
    (rest : List String) :
    session.run environment (words ++ rest) =
      session.run environment'
        (words ++ ("--max-steps=" ++ raw) :: rest) := by
  rcases Option.isSome_iff_exists.mp hRaw with
    ⟨limit, hLimit⟩
  have hNone :
      Settings.readVariable environment'
        Settings.maxStepsVariable = .ok none := by
    simp only [Settings.readVariable, hUnset]
  have hSpells' := hSpells.append (.budget raw)
  refine session.run_congr_of_limits
    (Settings.readVariable_of_sets hSets hLimit) hNone
    hVerbosity fun degree => ?_
  rw [← List.singleton_append, ← List.append_assoc]
  apply Options.read_congr hSpells.readAs hSpells'.readAs
  exact Draft.noteAll_budget_option
    (GivenOption.count_eq_zero_iff.mp hGiven) hLimit
    (.start ⟨none, degree⟩)

/- A budget in the environment gives way to an option. -/
theorem run_of_budget_option
    (session : Session)
    {environment environment' : Environment}
    (hValid :
      ¬environment.Invalid Settings.maxStepsVariable)
    (hValid' :
      ¬environment'.Invalid Settings.maxStepsVariable)
    (hVerbosity :
      environment'.AgreeOn environment
        Settings.verbosityVariable)
    {words : List String}
    {given : List GivenOption}
    (hSpells : Spells words given)
    (hGiven : 0 < GivenOption.count .maxSteps given)
    (rest : List String) :
    session.run environment (words ++ rest) =
      session.run environment' (words ++ rest) := by
  rcases Settings.exists_readVariable hValid with
    ⟨limit, hLimit⟩
  rcases Settings.exists_readVariable hValid' with
    ⟨limit', hLimit'⟩
  refine session.run_congr_of_limits hLimit hLimit'
    hVerbosity fun degree => ?_
  have hNote : ∀ limit : Option Nat,
      (Draft.start ⟨limit, degree⟩).noteAll given =
        (Draft.start ⟨none, degree⟩).noteAll given := by
    intro limit
    exact Draft.noteAll_withBudget_of_mem
      (GivenOption.count_pos_iff.mp hGiven)
      (.start ⟨none, degree⟩) (limit.map Int.ofNat)
  exact Options.read_congr hSpells.readAs hSpells.readAs
    ((hNote limit).trans (hNote limit').symm) rest

/-
  The verbosity is what the variable says and the number of
  verbose options together.
-/
theorem run_congr_of_sums
    (session : Session)
    {environment environment' : Environment}
    (hBudget :
      environment'.AgreeOn environment
        Settings.maxStepsVariable)
    {degree degree' : Option Nat}
    (hDegree :
      Settings.readVariable environment
        Settings.verbosityVariable = .ok degree)
    (hDegree' :
      Settings.readVariable environment'
        Settings.verbosityVariable = .ok degree')
    {words words' : List String}
    {given given' : List GivenOption}
    (hSpells : Spells words given)
    (hSpells' : Spells words' given')
    (hBesides :
      GivenOption.besides .verbose given' =
        GivenOption.besides .verbose given)
    (hSum :
      degree'.getD 0 + GivenOption.count .verbose given' =
        degree.getD 0 + GivenOption.count .verbose given)
    (rest : List String) :
    session.run environment (words ++ rest) =
      session.run environment' (words' ++ rest) := by
  have hSame := Settings.readVariable_congr hBudget
  cases hLimit : Settings.readVariable environment
      Settings.maxStepsVariable with
  | error error =>
      rw [hLimit] at hSame
      have hError := Settings.read_of_limit_error hLimit
      have hError' := Settings.read_of_limit_error hSame
      rw [session.run_of_no_settings hError,
        session.run_of_no_settings hError']
  | ok limit =>
      rw [hLimit] at hSame
      have hNote : ∀ degree given,
          (Draft.start ⟨limit, degree⟩).noteAll given =
            Draft.noteAll
              (GivenOption.besides .verbose given)
              (.start ⟨limit,
                degree +
                  GivenOption.count .verbose given⟩) := by
        intro degree given
        exact Draft.noteAll_verbose given _
      apply session.run_congr
        (Settings.read_of_readVariable hLimit hDegree)
        (Settings.read_of_readVariable hSame hDegree')
      apply Options.read_congr hSpells.readAs
        hSpells'.readAs
      rw [hNote (degree.getD 0) given,
        hNote (degree'.getD 0) given', hSum, hBesides]

/- A run with an invalid variable does nothing. -/
theorem run_of_invalid
    (session : Session)
    {environment : Environment}
    (hInvalid :
      environment.Invalid Settings.maxStepsVariable ∨
        environment.Invalid Settings.verbosityVariable)
    (arguments : List String) :
    (session.run environment arguments).1.ending =
        .status 2 ∧
      (session.run environment arguments).1.output = [] ∧
      (session.run environment arguments).2 = session := by
  rcases Settings.read_of_invalid hInvalid with
    ⟨error, hError⟩
  rw [session.run_of_no_settings hError]
  exact ⟨rfl, rfl, rfl⟩

end Session

/-
  A budget in the environment does the same as an option, and
  gives way to an option.  The verbosity is a sum of both.  A
  run with an invalid variable does nothing.
-/
theorem settings_agree_with_flags
    (session : Session)
    (environment environment' : Environment)
    {words words' : List String}
    {given given' : List GivenOption}
    (hSpells : Spells words given)
    (hSpells' : Spells words' given')
    (rest : List String) :
    (∀ raw,
      environment.Sets Settings.maxStepsVariable raw →
      (settingOf? raw).isSome →
      environment'.lookup Settings.maxStepsVariable =
        none →
      environment'.AgreeOn environment
        Settings.verbosityVariable →
      GivenOption.count .maxSteps given = 0 →
        session.run environment (words ++ rest) =
          session.run environment'
            (words ++ ("--max-steps=" ++ raw) :: rest)) ∧
      (¬environment.Invalid Settings.maxStepsVariable →
        ¬environment'.Invalid Settings.maxStepsVariable →
        environment'.AgreeOn environment
          Settings.verbosityVariable →
        0 < GivenOption.count .maxSteps given →
          session.run environment (words ++ rest) =
            session.run environment' (words ++ rest)) ∧
      (∀ degree degree',
        environment'.AgreeOn environment
          Settings.maxStepsVariable →
        Settings.readVariable environment
          Settings.verbosityVariable = .ok degree →
        Settings.readVariable environment'
          Settings.verbosityVariable = .ok degree' →
        GivenOption.besides .verbose given' =
          GivenOption.besides .verbose given →
        degree'.getD 0 +
            GivenOption.count .verbose given' =
          degree.getD 0 +
            GivenOption.count .verbose given →
          session.run environment (words ++ rest) =
            session.run environment' (words' ++ rest)) ∧
      (environment.Invalid Settings.maxStepsVariable ∨
          environment.Invalid Settings.verbosityVariable →
        ∀ arguments,
          (session.run environment arguments).1.ending =
              .status 2 ∧
            (session.run environment arguments).1.output =
              [] ∧
            (session.run environment arguments).2 =
              session) := by
  refine ⟨?_, ?_, ?_, ?_⟩
  · intro raw hSets hRaw hUnset hVerbosity hGiven
    exact session.run_budget_option hSets hRaw hUnset
      hVerbosity hSpells hGiven rest
  · intro hValid hValid' hVerbosity hGiven
    exact session.run_of_budget_option hValid hValid'
      hVerbosity hSpells hGiven rest
  · intro degree degree' hBudget hDegree hDegree' hBesides
      hSum
    exact session.run_congr_of_sums hBudget hDegree hDegree'
      hSpells hSpells' hBesides hSum rest
  · intro hInvalid arguments
    exact session.run_of_invalid hInvalid arguments

/-
  A budget with blanks, a sign and an underscore, a budget
  that an option replaces, a degree of verbosity in place of
  an option, and a budget that is no number.
-/
theorem settings_agree_with_flags_padded_number :
    let matched := ["{a}-{b:u}", "x-1", "x"]
    Session.start.run [("FIELDSCAN_MAX_STEPS", " +1_0 ")]
        (["-v", "--log", "log"] ++ matched) =
      Session.start.run []
        (["-v", "--log", "log"] ++
          ("--max-steps=" ++ " +1_0 ") :: matched) ∧
      Session.start.run [("FIELDSCAN_MAX_STEPS", "7")]
          (["--max=3"] ++ matched) =
        Session.start.run [] (["--max=3"] ++ matched) ∧
      Session.start.run [("FIELDSCAN_VERBOSE", "2")]
          (["--log", "log"] ++ matched) =
        Session.start.run [("FIELDSCAN_VERBOSE", "1")]
          (["-v", "--log", "log"] ++ matched) ∧
      (Session.start.run [("FIELDSCAN_MAX_STEPS", "lots")]
          ["-h"]).1.ending = .status 2 := by
  intro matched
  have hVerbose : Argument.read "-v" =
      .ok (.option ⟨"-v", .verbose⟩ none) := by
    decide +kernel
  have hLog : Argument.read "--log" =
      .ok (.option ⟨"--logfile", .logFile⟩ none) := by
    decide +kernel
  have hPath : Argument.read "log" = .ok (.plain "log") := by
    decide +kernel
  have hMax : Argument.read "--max=3" =
      .ok (.option ⟨"--max-steps", .maxSteps⟩
        (some "3")) := by
    decide +kernel
  have hLogged : Spells ["--log", "log"]
      [.known .logFile "log"] :=
    .separate hLog rfl hPath .done
  have hBoth : Spells ["-v", "--log", "log"]
      [.known .verbose "", .known .logFile "log"] :=
    .alone hVerbose rfl hLogged
  have hLimited : Spells ["--max=3"]
      [.known .maxSteps "3"] :=
    .joined hMax .done
  have hEmpty : ∀ name, ¬Environment.Invalid [] name := by
    rintro name ⟨raw, ⟨hLookup, _⟩, _⟩
    exact nomatch hLookup
  have hSeven : ¬Environment.Invalid
      [("FIELDSCAN_MAX_STEPS", "7")]
      Settings.maxStepsVariable := by
    rintro ⟨raw, ⟨hLookup, _⟩, hRaw⟩
    obtain rfl : "7" = raw := Option.some.inj hLookup
    exact absurd hRaw (by decide +kernel)
  refine ⟨?_, ?_, ?_, ?_⟩
  · exact (settings_agree_with_flags Session.start
      [("FIELDSCAN_MAX_STEPS", " +1_0 ")] [] hBoth hBoth
      matched).1 " +1_0 " ⟨rfl, by decide⟩
        (by decide +kernel) rfl rfl rfl
  · exact (settings_agree_with_flags Session.start
      [("FIELDSCAN_MAX_STEPS", "7")] [] hLimited hLimited
      matched).2.1 hSeven (hEmpty _) rfl Nat.one_pos
  · exact (settings_agree_with_flags Session.start
      [("FIELDSCAN_VERBOSE", "2")]
      [("FIELDSCAN_VERBOSE", "1")] hLogged hBoth
      matched).2.2.1 (some 2) (some 1) rfl
        (by decide +kernel) (by decide +kernel) rfl rfl
  · exact ((settings_agree_with_flags Session.start
      [("FIELDSCAN_MAX_STEPS", "lots")] [] hBoth hBoth
      matched).2.2.2
        (Or.inl ⟨"lots", ⟨rfl, by decide⟩,
          by decide +kernel⟩) ["-h"]).1

end TextTemplate
