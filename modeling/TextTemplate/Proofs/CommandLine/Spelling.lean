import TextTemplate.CommandLine.Options

/-
  Options as they are given, apart from how they are spelled.

  Words spell options if each of them is an option, with its
  value in the same word or in the next one.  Such words are
  read by noting the options one after another, whatever is
  written after them.

  Main declarations:
    * `GivenOption`
    * `Draft.noteAll`
    * `Spells`
    * `ReadAs`
    * `Spells.readAs`
    * `Options.read_congr`
-/

------------------------------------------------------------
-- Given Options
------------------------------------------------------------

namespace TextTemplate

/-
  An option that is given: a known one with its value, if it
  takes one, a known one that is used in a wrong way, or one
  that there is not.
-/
inductive GivenOption where
  | known (flag : Flag) (value : String)
  | misused (error : UsageError)
  | unknown (text : String)

namespace GivenOption

/- The option, if it is a known one. -/
def flag? : GivenOption → Option Flag
  | .known flag _ => some flag
  | .misused _ => none
  | .unknown _ => none

end GivenOption

namespace Draft

/- Note an option that is given. -/
def note
    (draft : Draft) : GivenOption → Except Stop Draft
  | .known flag value => draft.apply flag value
  | .misused error => .error (.usage error)
  | .unknown text => .ok (draft.setAside [.unknown text])

/- Note options one after another. -/
def noteAll
    (given : List GivenOption)
    (draft : Draft) : Except Stop Draft :=
  given.foldlM note draft

theorem noteAll_cons
    (first : GivenOption)
    (later : List GivenOption)
    (draft : Draft) :
    noteAll (first :: later) draft =
      draft.note first >>= noteAll later :=
  List.foldlM_cons

theorem noteAll_append
    (given later : List GivenOption)
    (draft : Draft) :
    noteAll (given ++ later) draft =
      noteAll given draft >>= noteAll later :=
  List.foldlM_append

theorem noteAll_singleton
    (option : GivenOption)
    (draft : Draft) :
    noteAll [option] draft = draft.note option := by
  rw [noteAll_cons]
  cases draft.note option <;> rfl

end Draft

/- The options that a spelling with a value of its own gives. -/
def Spelling.givenWith
    (spelling : Spelling)
    (value : String) : List GivenOption :=
  if spelling.flag.takesValue then
    [.known spelling.flag value]
  else if spelling.isShort && value != "" then
    match Draft.cluster spelling.flag value.toList with
    | .ok flags => flags.map fun flag => .known flag ""
    | .error error => [.misused error]
  else
    [.misused (.ignoredValue spelling.flag value)]

namespace Draft

/- Options without values are noted by applying them. -/
theorem noteAll_flags
    (flags : List Flag)
    (draft : Draft) :
    noteAll (flags.map fun flag => .known flag "") draft =
      applyAll flags draft := by
  induction flags generalizing draft with
  | nil => rfl
  | cons flag later ih =>
      rw [List.map_cons, noteAll_cons, applyAll, note]
      cases draft.apply flag "" with
      | error stop => rfl
      | ok next => exact ih next

/- A spelling with a value is noted by applying it. -/
theorem noteAll_givenWith
    (spelling : Spelling)
    (value : String)
    (draft : Draft) :
    noteAll (spelling.givenWith value) draft =
      draft.applyJoined spelling value := by
  unfold Spelling.givenWith applyJoined
  split
  · exact noteAll_singleton _ draft
  · split
    · cases cluster spelling.flag value.toList with
      | ok flags => exact noteAll_flags flags draft
      | error error => exact noteAll_singleton _ draft
    · exact noteAll_singleton _ draft

end Draft

/- Words that are options, each with its value, in order. -/
inductive Spells : List String → List GivenOption → Prop where
  | done : Spells [] []
  | alone
      {word : String}
      {later : List String}
      {spelling : Spelling}
      {given : List GivenOption}
      (hWord :
        Argument.read word = .ok (.option spelling none))
      (hFlag : spelling.flag.takesValue = false)
      (hLater : Spells later given) :
      Spells (word :: later)
        (.known spelling.flag "" :: given)
  | joined
      {word value : String}
      {later : List String}
      {spelling : Spelling}
      {given : List GivenOption}
      (hWord :
        Argument.read word =
          .ok (.option spelling (some value)))
      (hLater : Spells later given) :
      Spells (word :: later)
        (spelling.givenWith value ++ given)
  | separate
      {word value : String}
      {later : List String}
      {spelling : Spelling}
      {given : List GivenOption}
      (hWord :
        Argument.read word = .ok (.option spelling none))
      (hFlag : spelling.flag.takesValue = true)
      (hValue : Argument.read value = .ok (.plain value))
      (hLater : Spells later given) :
      Spells (word :: value :: later)
        (.known spelling.flag value :: given)
  | unknown
      {word text : String}
      {later : List String}
      {given : List GivenOption}
      (hWord : Argument.read word = .ok (.unknown text))
      (hLater : Spells later given) :
      Spells (word :: later) (.unknown text :: given)

/- What words spell is put together from their parts. -/
theorem Spells.append
    {words later : List String}
    {given more : List GivenOption}
    (hSpells : Spells words given)
    (hLater : Spells later more) :
    Spells (words ++ later) (given ++ more) := by
  induction hSpells with
  | done => exact hLater
  | alone hWord hFlag _ ih => exact .alone hWord hFlag ih
  | joined hWord _ ih =>
      rw [List.append_assoc]
      exact .joined hWord ih
  | separate hWord hFlag hValue _ ih =>
      exact .separate hWord hFlag hValue ih
  | unknown hWord _ ih => exact .unknown hWord ih

end TextTemplate

------------------------------------------------------------
-- Reading
------------------------------------------------------------

namespace TextTemplate

namespace Argument

/- The divider is not read as any other argument. -/
theorem ne_divider_of_read
    {text : String}
    {argument : Argument}
    (hRead : read text = .ok argument) :
    text ≠ dividerText := by
  rintro rfl
  have hDivider : (read dividerText).isOk = false := by
    decide +kernel
  rw [hRead] at hDivider
  exact nomatch hDivider

/- An argument is read before those that follow it. -/
theorem readAll_cons
    {text : String}
    {argument : Argument}
    (hRead : read text = .ok argument)
    (later : List String) :
    readAll (text :: later) =
      (readAll later).map (argument :: ·) := by
  rw [readAll, if_neg (ne_divider_of_read hRead), hRead]
  cases readAll later <;> rfl

end Argument

namespace Reader

/- A reader that waits for nothing. -/
def idle
    (draft : Draft) : Reader :=
  ⟨draft, [], none⟩

/- A reader that waits for nothing has its draft. -/
theorem flushed_idle
    (draft : Draft) :
    (idle draft).flushed = draft := by
  rcases draft with
    ⟨verbosity, logFile, maxSteps, template, inputs, extras⟩
  cases template <;>
    simp [idle, flushed, Draft.takeArguments,
      Draft.splitTemplate, Draft.takeInputs,
      Draft.setAside]

end Reader

/-
  Whether words are read by noting options, whatever is
  written after them.
-/
def ReadAs
    (words : List String)
    (given : List GivenOption) : Prop :=
  ∃ arguments,
    (∀ rest, Argument.readAll (words ++ rest) =
      (Argument.readAll rest).map (arguments ++ ·)) ∧
    ∀ (draft : Draft) (rest : List Argument),
      (arguments ++ rest).foldlM Reader.read (.idle draft) =
        draft.noteAll given >>= fun last =>
          rest.foldlM Reader.read (.idle last)

namespace ReadAs

theorem nil : ReadAs [] [] := by
  refine ⟨[], fun rest => ?_, fun draft rest => rfl⟩
  rw [List.nil_append]
  cases Argument.readAll rest <;> rfl

theorem append
    {words later : List String}
    {given more : List GivenOption}
    (hWords : ReadAs words given)
    (hLater : ReadAs later more) :
    ReadAs (words ++ later) (given ++ more) := by
  rcases hWords with ⟨arguments, hRead, hFold⟩
  rcases hLater with ⟨others, hRead', hFold'⟩
  refine ⟨arguments ++ others, fun rest => ?_,
    fun draft rest => ?_⟩
  · rw [List.append_assoc, hRead, hRead']
    cases Argument.readAll rest with
    | error error => rfl
    | ok found =>
        exact congrArg Except.ok
          (List.append_assoc _ _ _).symm
  · rw [List.append_assoc, hFold, Draft.noteAll_append]
    cases draft.noteAll given with
    | error stop => rfl
    | ok next => exact hFold' next rest

/- A word is read by noting options if its argument is. -/
theorem word
    {word : String}
    {argument : Argument}
    {given : List GivenOption}
    (hWord : Argument.read word = .ok argument)
    (hStep : ∀ draft,
      (Reader.idle draft).read argument =
        (draft.noteAll given).map Reader.idle) :
    ReadAs [word] given := by
  refine ⟨[argument], fun rest => ?_, fun draft rest => ?_⟩
  · exact Argument.readAll_cons hWord rest
  · rw [List.singleton_append, List.foldlM_cons, hStep]
    cases draft.noteAll given <;> rfl

/- An option that takes a value is read with the next word. -/
theorem separate
    {word value : String}
    {spelling : Spelling}
    (hWord :
      Argument.read word = .ok (.option spelling none))
    (hFlag : spelling.flag.takesValue = true)
    (hValue : Argument.read value = .ok (.plain value)) :
    ReadAs [word, value] [.known spelling.flag value] := by
  refine ⟨[.option spelling none, .plain value],
    fun rest => ?_, fun draft rest => ?_⟩
  · rw [List.cons_append, Argument.readAll_cons hWord,
      List.singleton_append, Argument.readAll_cons hValue]
    cases Argument.readAll rest <;> rfl
  · have hFirst :
        (Reader.idle draft).read (.option spelling none) =
          .ok ⟨draft, [], some spelling.flag⟩ := by
      change Reader.readAlone (Reader.idle draft).flushed
        spelling.flag = _
      rw [Reader.flushed_idle, Reader.readAlone, hFlag]
      rfl
    rw [List.cons_append, List.foldlM_cons, hFirst,
      Draft.noteAll_singleton]
    change ((draft.apply spelling.flag value).map _ >>=
      fun reader => rest.foldlM Reader.read reader) = _
    rw [Draft.note]
    cases draft.apply spelling.flag value <;> rfl

end ReadAs

/- Words that spell options are read by noting them. -/
theorem Spells.readAs
    {words : List String}
    {given : List GivenOption}
    (hSpells : Spells words given) :
    ReadAs words given := by
  induction hSpells with
  | done => exact .nil
  | @alone word _ spelling _ hWord hFlag _ ih =>
      have hFirst :
          ReadAs [word] [.known spelling.flag ""] := by
        refine .word hWord fun draft => ?_
        change Reader.readAlone (Reader.idle draft).flushed
          spelling.flag = _
        rw [Reader.flushed_idle, Reader.readAlone, hFlag,
          Draft.noteAll_singleton]
        rfl
      exact hFirst.append ih
  | @joined word value _ spelling _ hWord _ ih =>
      have hFirst :
          ReadAs [word] (spelling.givenWith value) := by
        refine .word hWord fun draft => ?_
        change ((Reader.idle draft).flushed.applyJoined
          spelling value).map _ = _
        rw [Reader.flushed_idle, Draft.noteAll_givenWith]
        rfl
      exact hFirst.append ih
  | separate hWord hFlag hValue _ ih =>
      exact (ReadAs.separate hWord hFlag hValue).append ih
  | @unknown word text _ _ hWord _ ih =>
      have hFirst : ReadAs [word] [.unknown text] := by
        refine .word hWord fun draft => ?_
        change Except.ok (Reader.mk
          ((Reader.idle draft).flushed.setAside _) [] none) = _
        rw [Reader.flushed_idle]
        rfl
      exact hFirst.append ih

namespace Options

/-
  Two lists of arguments that end alike are read alike if the
  options before come to the same draft.
-/
theorem read_congr
    {settings settings' : Settings}
    {words words' : List String}
    {given given' : List GivenOption}
    (hWords : ReadAs words given)
    (hWords' : ReadAs words' given')
    (hDraft :
      (Draft.start settings).noteAll given =
        (Draft.start settings').noteAll given')
    (rest : List String) :
    read settings (words ++ rest) =
      read settings' (words' ++ rest) := by
  rcases hWords with ⟨arguments, hRead, hFold⟩
  rcases hWords' with ⟨arguments', hRead', hFold'⟩
  rw [read, read, hRead, hRead']
  cases Argument.readAll rest with
  | error error => rfl
  | ok found =>
      change
        ((arguments ++ found).foldlM Reader.read
            (.idle (.start settings)) >>= _) =
          ((arguments' ++ found).foldlM Reader.read
            (.idle (.start settings')) >>= _)
      rw [hFold, hFold', hDraft]

end Options

end TextTemplate
