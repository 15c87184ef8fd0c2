import TextTemplate.Proofs.CommandLine.Spelling

/-
  Options that stand before the template.

  A preamble is a list of options, each with its value if it
  takes one.  After it, texts that do not begin with a hyphen
  are read as the template and the inputs.

  Main declarations:
    * `Unhyphenated`
    * `Preamble`
    * `Preamble.spells`
    * `Options.read_of_preamble`
-/

------------------------------------------------------------
-- Plain Texts
------------------------------------------------------------

namespace TextTemplate

/- Whether a text does not begin with a hyphen. -/
def Unhyphenated
    (text : String) : Prop :=
  text.toList.head? ≠ some '-'

instance
    (text : String) : Decidable (Unhyphenated text) := by
  unfold Unhyphenated
  infer_instance

namespace Argument

/- A text without a leading hyphen is read as it is. -/
theorem read_of_unhyphenated
    {text : String}
    (hText : Unhyphenated text) :
    read text = .ok (.plain text) := by
  rw [read, if_pos]
  simpa [Unhyphenated] using Or.inl hText

/- Texts without leading hyphens are read as they are. -/
theorem readAll_of_unhyphenated
    {texts : List String}
    (hTexts : ∀ text ∈ texts, Unhyphenated text) :
    readAll texts = .ok (texts.map .plain) := by
  induction texts with
  | nil => rfl
  | cons text later ih =>
      rcases List.forall_mem_cons.mp hTexts with
        ⟨hText, hLater⟩
      rw [readAll_cons (read_of_unhyphenated hText),
        ih hLater]
      rfl

end Argument

end TextTemplate

------------------------------------------------------------
-- Preambles
------------------------------------------------------------

namespace TextTemplate

/-
  Options, each with its value if it takes one, that lead
  from a draft to another when they are applied in order.
-/
inductive Preamble :
    Draft → List String → Draft → Prop where
  | done
      (draft : Draft) :
      Preamble draft [] draft
  | alone
      {draft next last : Draft}
      {word : String}
      {later : List String}
      {spelling : Spelling}
      (hWord :
        Argument.read word = .ok (.option spelling none))
      (hFlag : spelling.flag.takesValue = false)
      (hApply : draft.apply spelling.flag "" = .ok next)
      (hLater : Preamble next later last) :
      Preamble draft (word :: later) last
  | joined
      {draft next last : Draft}
      {word value : String}
      {later : List String}
      {spelling : Spelling}
      (hWord :
        Argument.read word =
          .ok (.option spelling (some value)))
      (hApply : draft.applyJoined spelling value = .ok next)
      (hLater : Preamble next later last) :
      Preamble draft (word :: later) last
  | separate
      {draft next last : Draft}
      {word value : String}
      {later : List String}
      {spelling : Spelling}
      (hWord :
        Argument.read word = .ok (.option spelling none))
      (hFlag : spelling.flag.takesValue = true)
      (hValue : Argument.read value = .ok (.plain value))
      (hApply : draft.apply spelling.flag value = .ok next)
      (hLater : Preamble next later last) :
      Preamble draft (word :: value :: later) last

end TextTemplate

------------------------------------------------------------
-- Waiting Texts
------------------------------------------------------------

namespace TextTemplate

namespace Reader

/- Plain texts wait for an option or for the end. -/
theorem foldlM_plain
    (texts : List String)
    (draft : Draft)
    (waiting : List Argument) :
    (texts.map Argument.plain).foldlM read
        ⟨draft, waiting, none⟩ =
      .ok ⟨draft,
        (texts.map Argument.plain).reverse ++ waiting,
        none⟩ := by
  induction texts generalizing waiting with
  | nil => rfl
  | cons text later ih =>
      have hRead :
          read ⟨draft, waiting, none⟩ (.plain text) =
            .ok ⟨draft, .plain text :: waiting, none⟩ := rfl
      rw [List.map_cons, List.foldlM_cons, hRead]
      change (later.map Argument.plain).foldlM read
        ⟨draft, .plain text :: waiting, none⟩ = _
      rw [ih]
      simp

end Reader

end TextTemplate

------------------------------------------------------------
-- Reading Preambles
------------------------------------------------------------

namespace TextTemplate

namespace Preamble

/- A preamble spells options that lead from draft to draft. -/
theorem spells
    {draft last : Draft}
    {words : List String}
    (hPreamble : Preamble draft words last) :
    ∃ given, Spells words given ∧
      draft.noteAll given = .ok last := by
  induction hPreamble with
  | done draft => exact ⟨[], .done, rfl⟩
  | alone hWord hFlag hApply _ ih =>
      rcases ih with ⟨given, hLater, hNote⟩
      refine ⟨_, .alone hWord hFlag hLater, ?_⟩
      rw [Draft.noteAll_cons, Draft.note, hApply]
      exact hNote
  | joined hWord hApply _ ih =>
      rcases ih with ⟨given, hLater, hNote⟩
      refine ⟨_, .joined hWord hLater, ?_⟩
      rw [Draft.noteAll_append, Draft.noteAll_givenWith,
        hApply]
      exact hNote
  | separate hWord hFlag hValue hApply _ ih =>
      rcases ih with ⟨given, hLater, hNote⟩
      refine ⟨_, .separate hWord hFlag hValue hLater, ?_⟩
      rw [Draft.noteAll_cons, Draft.note, hApply]
      exact hNote

end Preamble

end TextTemplate

------------------------------------------------------------
-- Template and Inputs
------------------------------------------------------------

namespace TextTemplate

namespace Draft

/- Whether two drafts differ in options only. -/
structure SameArguments
    (draft other : Draft) : Prop where
  template : other.template = draft.template
  inputs : other.inputs = draft.inputs
  extras : other.extras = draft.extras

theorem SameArguments.refl
    (draft : Draft) :
    draft.SameArguments draft :=
  ⟨rfl, rfl, rfl⟩

theorem SameArguments.trans
    {draft other last : Draft}
    (hOther : draft.SameArguments other)
    (hLast : other.SameArguments last) :
    draft.SameArguments last :=
  ⟨hLast.template.trans hOther.template,
    hLast.inputs.trans hOther.inputs,
    hLast.extras.trans hOther.extras⟩

/- An option leaves the arguments alone. -/
theorem sameArguments_of_apply
    {draft next : Draft}
    {flag : Flag}
    {value : String}
    (hApply : draft.apply flag value = .ok next) :
    draft.SameArguments next := by
  cases flag with
  | help => exact nomatch hApply
  | verbose =>
      obtain rfl := Except.ok.inj hApply
      exact ⟨rfl, rfl, rfl⟩
  | logFile =>
      obtain rfl := Except.ok.inj hApply
      exact ⟨rfl, rfl, rfl⟩
  | maxSteps =>
      rw [apply] at hApply
      split at hApply
      · obtain rfl := Except.ok.inj hApply
        exact ⟨rfl, rfl, rfl⟩
      · exact nomatch hApply

theorem sameArguments_of_applyAll
    {flags : List Flag}
    {draft next : Draft}
    (hApply : applyAll flags draft = .ok next) :
    draft.SameArguments next := by
  induction flags generalizing draft with
  | nil =>
      obtain rfl := Except.ok.inj hApply
      exact .refl _
  | cons flag later ih =>
      rw [applyAll] at hApply
      cases hFirst : draft.apply flag "" with
      | error stop =>
          rw [hFirst] at hApply
          cases hApply
      | ok middle =>
          rw [hFirst] at hApply
          exact (sameArguments_of_apply hFirst).trans
            (ih hApply)

theorem sameArguments_of_applyJoined
    {draft next : Draft}
    {spelling : Spelling}
    {value : String}
    (hApply : draft.applyJoined spelling value = .ok next) :
    draft.SameArguments next := by
  rw [applyJoined] at hApply
  split at hApply
  · exact sameArguments_of_apply hApply
  · split at hApply
    · split at hApply
      · exact sameArguments_of_applyAll hApply
      · exact nomatch hApply
    · exact nomatch hApply

end Draft

/- A preamble leaves the arguments alone. -/
theorem Preamble.sameArguments
    {draft last : Draft}
    {words : List String}
    (hPreamble : Preamble draft words last) :
    draft.SameArguments last := by
  induction hPreamble with
  | done draft => exact .refl draft
  | alone _ _ hApply _ ih =>
      exact (Draft.sameArguments_of_apply hApply).trans ih
  | joined _ hApply _ ih =>
      exact (Draft.sameArguments_of_applyJoined hApply).trans
        ih
  | separate _ _ _ hApply _ ih =>
      exact (Draft.sameArguments_of_apply hApply).trans ih

namespace Draft

/- The first of several plain texts is the template. -/
theorem splitTemplate_plain
    (template : String)
    (inputs : List String) :
    splitTemplate ((template :: inputs).map .plain) =
      some (template, inputs.map .plain) := by
  cases inputs <;> rfl

/- Plain texts are taken as the template and the inputs. -/
theorem takeArguments_plain
    {draft : Draft}
    {settings : Settings}
    (hDraft : (start settings).SameArguments draft)
    (template : String)
    {inputs : List String}
    (hSome : inputs ≠ [])
    (hInputs : ∀ input ∈ inputs, Unhyphenated input) :
    (draft.takeArguments
        ((template :: inputs).map .plain)).finish =
      .ok ⟨draft.verbosity, draft.logFile, draft.maxSteps,
        template, inputs⟩ := by
  rcases draft with
    ⟨verbosity, logFile, maxSteps, found, rest, extras⟩
  rcases hDraft with ⟨hFound, hRest, hExtras⟩
  obtain rfl : found = none := hFound
  obtain rfl : rest = none := hRest
  obtain rfl : extras = [] := hExtras
  have hPlain : (inputs.map Argument.plain).any
      Argument.isPlain = true := by
    rcases List.exists_cons_of_ne_nil hSome with
      ⟨input, later, rfl⟩
    rfl
  have hTexts :
      (inputs.map Argument.plain).map Argument.text =
        inputs := by
    simp [Function.comp_def, Argument.text]
  have hDivider : Argument.dividerText ∉ inputs := by
    intro hDivider
    exact hInputs _ hDivider (by decide +kernel)
  rw [takeArguments, splitTemplate_plain]
  simp only [takeInputs, Option.isNone_none, hPlain,
    Bool.and_self, if_true, hTexts,
    List.erase_of_not_mem hDivider]
  rfl

end Draft

namespace Options

/-
  After a preamble, texts without leading hyphens are the
  template and the inputs.
-/
theorem read_of_preamble
    {settings : Settings}
    {words : List String}
    {draft : Draft}
    (hPreamble : Preamble (.start settings) words draft)
    {template : String}
    {inputs : List String}
    (hSome : inputs ≠ [])
    (hTemplate : Unhyphenated template)
    (hInputs : ∀ input ∈ inputs, Unhyphenated input) :
    read settings (words ++ template :: inputs) =
      .ok ⟨draft.verbosity, draft.logFile, draft.maxSteps,
        template, inputs⟩ := by
  rcases hPreamble.spells with ⟨given, hSpells, hNote⟩
  rcases hSpells.readAs with ⟨arguments, hArguments, hFold⟩
  have hTexts := Argument.readAll_of_unhyphenated
    (List.forall_mem_cons.mpr ⟨hTemplate, hInputs⟩)
  have hReader := hFold (.start settings)
    ((template :: inputs).map Argument.plain)
  rw [hNote] at hReader
  change _ = ((template :: inputs).map Argument.plain).foldlM
    Reader.read ⟨draft, [], none⟩ at hReader
  rw [Reader.foldlM_plain, List.append_nil] at hReader
  have hDraft := draft.takeArguments_plain
    hPreamble.sameArguments template hSome hInputs
  rw [read, hArguments, hTexts]
  change
    ((arguments ++
        (template :: inputs).map Argument.plain).foldlM
      Reader.read (.idle (.start settings)) >>=
        fun reader => reader.close >>= Draft.finish) = _
  rw [hReader]
  change (Reader.flushed
    ⟨draft,
      ((template :: inputs).map Argument.plain).reverse,
      none⟩).finish = _
  rw [Reader.flushed, List.reverse_reverse]
  exact hDraft

end Options

end TextTemplate
