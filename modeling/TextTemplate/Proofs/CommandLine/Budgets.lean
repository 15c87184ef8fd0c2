import TextTemplate.CommandLine.Options
import TextTemplate.Proofs.Text.Numeral

/-
  The budget of a run is never too long to be written.

  A budget is read from a variable or from an option, which
  have a limited number of digits.  Nothing else that is read
  of the arguments changes it.

  Main declarations:
    * `ShortBudget`
    * `Settings.shortBudget_of_read`
    * `Reader.shortBudget_of_read`
    * `Options.shortBudget_of_read`
-/

------------------------------------------------------------
-- Settings
------------------------------------------------------------

namespace TextTemplate

/- Whether a budget can be written. -/
def ShortBudget
    (budget : Option Int) : Prop :=
  ∀ limit ∈ budget, Numeral.isLong limit = false

/- A result that comes after another one. -/
theorem exists_of_bind
    {ε α β : Type}
    {first : Except ε α}
    {next : α → Except ε β}
    {last : β}
    (hBind : first.bind next = .ok last) :
    ∃ middle, first = .ok middle ∧ next middle = .ok last := by
  cases first with
  | error error => exact nomatch hBind
  | ok middle => exact ⟨middle, rfl, hBind⟩

theorem shortBudget_none :
    ShortBudget none :=
  nofun

theorem shortBudget_some
    {limit : Int}
    (hLimit : Numeral.isLong limit = false) :
    ShortBudget (some limit) := by
  intro limit' hMem
  rw [← Option.mem_some_iff.mp hMem]
  exact hLimit

namespace Settings

/- A number that a variable gives can be written. -/
theorem isLong_of_settingOf?
    {raw : String}
    {value : Nat}
    (hRaw : settingOf? raw = some value) :
    Numeral.isLong value = false := by
  unfold settingOf? at hRaw
  split at hRaw
  · rename_i hRead
    rw [Option.some_inj] at hRaw
    rw [← hRaw]
    exact Numeral.isLong_of_read? hRead
  · exact nomatch hRaw

theorem isLong_of_readVariable
    {environment : Environment}
    {name : String}
    {value : Nat}
    (hRead :
      readVariable environment name = .ok (some value)) :
    Numeral.isLong value = false := by
  unfold readVariable at hRead
  split at hRead
  · exact nomatch hRead
  · split at hRead
    · exact nomatch hRead
    · split at hRead
      · rename_i hRaw
        obtain rfl := Option.some.inj (Except.ok.inj hRead)
        exact isLong_of_settingOf? hRaw
      · exact nomatch hRead

/- Arguments are read from a budget that can be written. -/
theorem shortBudget_of_read
    {environment : Environment}
    {settings : Settings}
    (hSettings : read environment = .ok settings) :
    ShortBudget (Draft.start settings).maxSteps := by
  obtain ⟨limit, hLimit, hSettings⟩ :=
    exists_of_bind hSettings
  obtain ⟨degree, _, hSettings⟩ := exists_of_bind hSettings
  obtain rfl := Except.ok.inj hSettings
  cases limit with
  | none => exact shortBudget_none
  | some limit =>
      exact shortBudget_some (isLong_of_readVariable hLimit)

end Settings

end TextTemplate

------------------------------------------------------------
-- Drafts
------------------------------------------------------------

namespace TextTemplate

namespace Draft

/- To take arguments leaves the budget as it is. -/
theorem maxSteps_takeInputs
    (draft : Draft)
    (arguments : List Argument) :
    (draft.takeInputs arguments).maxSteps =
      draft.maxSteps := by
  unfold takeInputs
  split <;> rfl

theorem maxSteps_takeArguments
    (draft : Draft)
    (arguments : List Argument) :
    (draft.takeArguments arguments).maxSteps =
      draft.maxSteps := by
  unfold takeArguments
  split
  · exact maxSteps_takeInputs _ _
  · rfl
  · exact maxSteps_takeInputs _ _

variable {draft next : Draft}

/- An option leaves a budget that can be written. -/
theorem shortBudget_of_apply
    {flag : Flag}
    {value : String}
    (hDraft : ShortBudget draft.maxSteps)
    (hApply : draft.apply flag value = .ok next) :
    ShortBudget next.maxSteps := by
  cases flag with
  | help => exact nomatch hApply
  | verbose =>
      obtain rfl := Except.ok.inj hApply
      exact hDraft
  | logFile =>
      obtain rfl := Except.ok.inj hApply
      exact hDraft
  | maxSteps =>
      rw [apply] at hApply
      split at hApply
      · rename_i limit hLimit
        obtain rfl := Except.ok.inj hApply
        exact shortBudget_some
          (Numeral.isLong_of_read? hLimit)
      · exact nomatch hApply

theorem shortBudget_of_applyAll
    {flags : List Flag}
    (hDraft : ShortBudget draft.maxSteps)
    (hApply : applyAll flags draft = .ok next) :
    ShortBudget next.maxSteps := by
  induction flags generalizing draft with
  | nil =>
      obtain rfl := Except.ok.inj hApply
      exact hDraft
  | cons flag later ih =>
      obtain ⟨middle, hFirst, hLater⟩ := exists_of_bind hApply
      exact ih (shortBudget_of_apply hDraft hFirst) hLater

theorem shortBudget_of_applyJoined
    {spelling : Spelling}
    {value : String}
    (hDraft : ShortBudget draft.maxSteps)
    (hApply : draft.applyJoined spelling value = .ok next) :
    ShortBudget next.maxSteps := by
  rw [applyJoined] at hApply
  split at hApply
  · exact shortBudget_of_apply hDraft hApply
  · split at hApply
    · split at hApply
      · exact shortBudget_of_applyAll hDraft hApply
      · exact nomatch hApply
    · exact nomatch hApply

end Draft

end TextTemplate

------------------------------------------------------------
-- Arguments
------------------------------------------------------------

namespace TextTemplate

namespace Reader

variable {reader next : Reader}

theorem shortBudget_flushed
    (hReader : ShortBudget reader.draft.maxSteps) :
    ShortBudget reader.flushed.maxSteps := by
  rw [flushed, Draft.maxSteps_takeArguments]
  exact hReader

/- A result of a draft is the draft of the next reader. -/
theorem exists_draft_of_map
    {result : Except Stop Draft}
    (hNext :
      result.map (fun draft => ⟨draft, [], none⟩) =
        .ok next) :
    ∃ draft, result = .ok draft ∧ next.draft = draft := by
  cases result with
  | error stop => exact nomatch hNext
  | ok draft =>
      obtain rfl := Except.ok.inj hNext
      exact ⟨draft, rfl, rfl⟩

theorem shortBudget_of_readFree
    {argument : Argument}
    (hReader : ShortBudget reader.draft.maxSteps)
    (hRead : reader.readFree argument = .ok next) :
    ShortBudget next.draft.maxSteps := by
  have hFlushed := shortBudget_flushed hReader
  unfold readFree at hRead
  split at hRead
  · rcases exists_draft_of_map hRead with ⟨_, hApply, rfl⟩
    exact Draft.shortBudget_of_applyJoined hFlushed hApply
  · unfold readAlone at hRead
    split at hRead
    · obtain rfl := Except.ok.inj hRead
      exact hFlushed
    · rcases exists_draft_of_map hRead with ⟨_, hApply, rfl⟩
      exact Draft.shortBudget_of_apply hFlushed hApply
  · obtain rfl := Except.ok.inj hRead
    exact hFlushed
  · obtain rfl := Except.ok.inj hRead
    exact hReader

/- An argument leaves a budget that can be written. -/
theorem shortBudget_of_read
    {argument : Argument}
    (hReader : ShortBudget reader.draft.maxSteps)
    (hRead : reader.read argument = .ok next) :
    ShortBudget next.draft.maxSteps := by
  unfold read at hRead
  split at hRead
  · exact shortBudget_of_readFree hReader hRead
  · rcases exists_draft_of_map hRead with ⟨_, hApply, rfl⟩
    exact Draft.shortBudget_of_apply hReader hApply
  · exact nomatch hRead

theorem shortBudget_of_foldlM
    {arguments : List Argument}
    (hReader : ShortBudget reader.draft.maxSteps)
    (hRead : arguments.foldlM read reader = .ok next) :
    ShortBudget next.draft.maxSteps := by
  induction arguments generalizing reader with
  | nil =>
      obtain rfl := Except.ok.inj hRead
      exact hReader
  | cons argument later ih =>
      rw [List.foldlM_cons] at hRead
      obtain ⟨middle, hFirst, hLater⟩ := exists_of_bind hRead
      exact ih (shortBudget_of_read hReader hFirst) hLater

end Reader

namespace Options

/- The budget of a run can be written. -/
theorem shortBudget_of_read
    {environment : Environment}
    {settings : Settings}
    (hSettings : Settings.read environment = .ok settings)
    {texts : List String}
    {options : Options}
    (hOptions : read settings texts = .ok options) :
    ShortBudget options.maxSteps := by
  obtain ⟨arguments, _, hOptions⟩ := exists_of_bind hOptions
  obtain ⟨reader, hReader, hOptions⟩ :=
    exists_of_bind hOptions
  obtain ⟨draft, hDraft, hOptions⟩ := exists_of_bind hOptions
  have hShort := Reader.shortBudget_of_foldlM
    (Settings.shortBudget_of_read hSettings) hReader
  have hClosed : ShortBudget draft.maxSteps := by
    unfold Reader.close at hDraft
    split at hDraft
    · obtain rfl := Except.ok.inj hDraft
      exact Reader.shortBudget_flushed hShort
    · exact nomatch hDraft
  unfold Draft.finish at hOptions
  split at hOptions
  · split at hOptions
    · obtain rfl := Except.ok.inj hOptions
      exact hClosed
    · exact nomatch hOptions
  · exact nomatch hOptions

end Options

end TextTemplate
