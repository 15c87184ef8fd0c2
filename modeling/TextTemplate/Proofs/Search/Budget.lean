import TextTemplate.Match
import TextTemplate.Proofs.Search.Exploration

/-
  A budget cuts an exploration short and changes nothing
  else.

  The same exploration is compared without and with a limit.
  As long as the limit is not exceeded both do the same; the
  first step beyond it ends the limited one.

  Main declarations:
    * `Search.Truncated`
    * `Search.explore_truncated`
-/

------------------------------------------------------------
-- Counted Steps
------------------------------------------------------------

namespace TextTemplate

namespace Search

/- Attempts count steps and never take them back. -/
theorem attempt_steps_le
    {data : ByteArray}
    {budget : Option Int}
    {slot : Slot}
    {proceed : Place → Progress → Outcome × Progress}
    (hProceed :
      ∀ next progress,
        progress.steps ≤ (proceed next progress).2.steps)
    (place : Place)
    (length : Nat)
    (progress : Progress) :
    progress.steps + 1 ≤
      (attempt data budget slot proceed place length
        progress).2.steps := by
  have hResult := attempted data budget slot proceed place
    length progress
  revert hResult
  generalize attempt data budget slot proceed place length
    progress = ended
  intro hResult
  cases hResult with
  | exhausted _ => exact Nat.le_refl _
  | unfit _ _ => exact Nat.le_refl _
  | remembered _ _ _ => exact Nat.le_refl _
  | explored _ _ _ =>
      exact hProceed (place.after length) progress.advance

theorem tryLengths_steps_le
    {attempt : Nat → Progress → Outcome × Progress}
    (hAttempt :
      ∀ length progress,
        progress.steps ≤ (attempt length progress).2.steps)
    (shortest count : Nat)
    (progress : Progress) :
    progress.steps ≤
      (tryLengths attempt shortest count
        progress).2.steps := by
  apply tryLengths_keeps
    (fun later => progress.steps ≤ later.steps)
  · intro length later _ _ hLater
    exact Nat.le_trans hLater (hAttempt length later)
  · exact Nat.le_refl _

@[simp] theorem settle_steps
    (place : Place)
    (ended : Outcome × Progress) :
    (settle place ended).2.steps = ended.2.steps := by
  rcases ended with ⟨outcome, progress⟩
  cases outcome <;> rfl

/- An exploration never takes back a step. -/
theorem explore_steps_le
    (data : ByteArray)
    (budget : Option Int)
    (slots : List Slot)
    (place : Place)
    (progress : Progress) :
    progress.steps ≤
      (explore data budget slots place progress).2.steps := by
  induction slots generalizing place progress with
  | nil =>
      rw [explore_nil]
      split <;> exact Nat.le_refl _
  | cons slot later ih =>
      cases hCandidates :
          slot.candidates data place.offset with
      | none =>
          rw [explore_cons_of_none hCandidates]
          exact Nat.le_refl _
      | some range =>
          rw [explore_cons_of_some hCandidates, settle_steps]
          apply tryLengths_steps_le
          intro length progress
          exact Nat.le_of_succ_le
            (attempt_steps_le ih place length progress)

end Search

end TextTemplate

------------------------------------------------------------
-- Truncated Explorations
------------------------------------------------------------

namespace TextTemplate

namespace Search

/-
  How an exploration under a limit relates to the same one
  without, both begun with `start` steps counted: they are
  the same, or the limited one ends with the first step
  beyond the limit.
-/
inductive Truncated
    (limit : Int)
    (start : Nat)
    (unlimited : Outcome × Progress) :
    Outcome × Progress → Prop where
  | within
      (hWithin :
        unlimited.2.steps = start ∨
          (unlimited.2.steps : Int) ≤ limit) :
      Truncated limit start unlimited unlimited
  | cut
      {limited : Outcome × Progress}
      (hStart : start < unlimited.2.steps)
      (hLimit : limit < unlimited.2.steps)
      (hOutcome : limited.1 = .exhausted)
      (hSteps :
        (limited.2.steps : Int) = max limit start + 1) :
      Truncated limit start unlimited limited

theorem exceeds_none
    (progress : Progress) :
    progress.exceeds none = false :=
  rfl

theorem exceeds_some_iff
    (progress : Progress)
    (limit : Int) :
    progress.exceeds (some limit) = true ↔
      limit < progress.steps :=
  decide_eq_true_iff

/- A length put before both outcomes changes no step. -/
theorem Truncated.prepend
    {limit : Int}
    {start : Nat}
    {unlimited limited : Outcome × Progress}
    (hTruncated : Truncated limit start unlimited limited)
    (length : Nat) :
    Truncated limit start
      (unlimited.1.prepend length, unlimited.2)
      (limited.1.prepend length, limited.2) := by
  cases hTruncated with
  | within hWithin => exact .within hWithin
  | cut hStart hLimit hOutcome hSteps =>
      refine .cut hStart hLimit ?_ hSteps
      exact Outcome.prepend_eq_exhausted_iff.mpr hOutcome

/- A first step within the limit changes no later one. -/
theorem Truncated.of_step
    {limit : Int}
    {start : Nat}
    {unlimited limited : Outcome × Progress}
    (hTruncated :
      Truncated limit (start + 1) unlimited limited)
    (hStep : ((start + 1 : Nat) : Int) ≤ limit) :
    Truncated limit start unlimited limited := by
  cases hTruncated with
  | within hWithin => exact .within (by omega)
  | cut hStart hLimit hOutcome hSteps =>
      exact .cut (by omega) hLimit hOutcome (by omega)

/- An attempt begins by counting a step. -/
theorem attempt_truncated
    {data : ByteArray}
    {limit : Int}
    {slot : Slot}
    {unlimited limited :
      Place → Progress → Outcome × Progress}
    (hSteps :
      ∀ next progress,
        progress.steps ≤ (unlimited next progress).2.steps)
    (hProceed :
      ∀ next progress,
        Truncated limit progress.steps
          (unlimited next progress) (limited next progress))
    (place : Place)
    (length : Nat)
    (progress : Progress) :
    Truncated limit progress.steps
      (attempt data none slot unlimited place length
        progress)
      (attempt data (some limit) slot limited place length
        progress) := by
  have hAdvance :
      progress.advance.steps = progress.steps + 1 :=
    rfl
  by_cases hExceeds : limit < progress.advance.steps
  · have hCounted :
        progress.steps + 1 ≤
          (attempt data none slot unlimited place length
            progress).2.steps :=
      attempt_steps_le hSteps place length progress
    have hLimited :
        attempt data (some limit) slot limited place length
            progress = (.exhausted, progress.advance) := by
      rw [attempt,
        if_pos ((exceeds_some_iff _ _).mpr hExceeds)]
    rw [hLimited]
    refine .cut (by omega) (by omega) rfl ?_
    rw [hAdvance]
    omega
  · have hNot :
        ¬ progress.advance.exceeds (some limit) = true :=
      fun h => hExceeds ((exceeds_some_iff _ _).mp h)
    apply Truncated.of_step _ (Int.not_lt.mp hExceeds)
    simp only [attempt, exceeds_none, Bool.false_eq_true,
      if_false, if_neg hNot]
    by_cases hFits :
        (!slot.piece.fits data place.offset length) = true
    · rw [if_pos hFits, if_pos hFits]
      exact .within (Or.inl rfl)
    · rw [if_neg hFits, if_neg hFits]
      by_cases hMem :
          progress.advance.failed.contains
            (place.after length) = true
      · rw [if_pos hMem, if_pos hMem]
        exact .within (Or.inl rfl)
      · rw [if_neg hMem, if_neg hMem]
        have hNext := hProceed (place.after length)
          progress.advance
        exact hNext.prepend length

/-
  Attempts follow one another: a limit that is not reached in
  the first one is the limit of the others.
-/
theorem tryLengths_truncated
    {limit : Int}
    {unlimited limited : Nat → Progress → Outcome × Progress}
    (hSteps :
      ∀ length progress,
        progress.steps ≤
          (unlimited length progress).2.steps)
    (hAttempt :
      ∀ length progress,
        Truncated limit progress.steps
          (unlimited length progress)
          (limited length progress))
    (shortest count : Nat)
    (progress : Progress) :
    Truncated limit progress.steps
      (tryLengths unlimited shortest count progress)
      (tryLengths limited shortest count progress) := by
  induction count generalizing progress with
  | zero => exact .within (Or.inl rfl)
  | succ count ih =>
      have hFirst := hAttempt (shortest + count) progress
      have hFirstSteps := hSteps (shortest + count) progress
      rw [tryLengths, tryLengths]
      revert hFirst hFirstSteps
      generalize unlimited (shortest + count) progress = first
      generalize limited (shortest + count) progress = ended
      intro hFirst hFirstSteps
      rcases first with ⟨outcome, later⟩
      cases hFirst with
      | within hWithin =>
          cases outcome with
          | stuck =>
              have hRest := ih later
              simp only at hWithin hFirstSteps ⊢
              revert hRest
              generalize tryLengths limited shortest count
                later = limitedRest
              intro hRest
              cases hRest with
              | within hRestWithin =>
                  exact .within (by omega)
              | cut hStart hLimit hOutcome hEnd =>
                  exact .cut (by omega) hLimit hOutcome
                    (by omega)
          | found lengths => exact .within hWithin
          | exhausted => exact .within hWithin
      | cut hStart hLimit hOutcome hEnd =>
          rcases ended with ⟨limitedOutcome, limitedLater⟩
          simp only at hStart hLimit hOutcome hEnd
          subst hOutcome
          cases outcome with
          | stuck =>
              have hRestSteps :=
                tryLengths_steps_le hSteps shortest count later
              exact .cut
                (Nat.lt_of_lt_of_le hStart hRestSteps)
                (by simp only; omega) rfl hEnd
          | found lengths => exact .cut hStart hLimit rfl hEnd
          | exhausted => exact .cut hStart hLimit rfl hEnd

/- What is remembered at the end takes no step. -/
theorem settle_truncated
    {limit : Int}
    {start : Nat}
    {unlimited limited : Outcome × Progress}
    (place : Place)
    (hTruncated : Truncated limit start unlimited limited) :
    Truncated limit start (settle place unlimited)
      (settle place limited) := by
  cases hTruncated with
  | within hWithin =>
      refine .within ?_
      rw [settle_steps]
      exact hWithin
  | cut hStart hLimit hOutcome hSteps =>
      refine .cut ?_ ?_ ?_ ?_
      · rw [settle_steps]
        exact hStart
      · rw [settle_steps]
        exact hLimit
      · rcases limited with ⟨outcome, progress⟩
        simp only at hOutcome
        subst hOutcome
        rfl
      · rw [settle_steps]
        exact hSteps

/- A limit truncates an exploration and does nothing else. -/
theorem explore_truncated
    (data : ByteArray)
    (limit : Int)
    (slots : List Slot)
    (place : Place)
    (progress : Progress) :
    Truncated limit progress.steps
      (explore data none slots place progress)
      (explore data (some limit) slots place progress) := by
  induction slots generalizing place progress with
  | nil =>
      rw [explore_nil, explore_nil]
      split <;> exact .within (Or.inl rfl)
  | cons slot later ih =>
      cases hCandidates :
          slot.candidates data place.offset with
      | none =>
          rw [explore_cons_of_none hCandidates,
            explore_cons_of_none hCandidates]
          exact .within (Or.inl rfl)
      | some range =>
          have hSteps := explore_steps_le data none later
          rw [explore_cons_of_some hCandidates,
            explore_cons_of_some hCandidates]
          apply settle_truncated
          apply tryLengths_truncated
          · intro length progress
            exact Nat.le_of_succ_le
              (attempt_steps_le hSteps place length progress)
          · intro length progress
            exact attempt_truncated hSteps ih place length
              progress

end Search

end TextTemplate

------------------------------------------------------------
-- Truncated Runs
------------------------------------------------------------

namespace TextTemplate

namespace Search

theorem settle_exhausted_iff
    (place : Place)
    (ended : Outcome × Progress) :
    (settle place ended).1 = .exhausted ↔
      ended.1 = .exhausted := by
  rcases ended with ⟨outcome, progress⟩
  cases outcome <;> simp [settle]

theorem tryLengths_ne_exhausted
    {attempt : Nat → Progress → Outcome × Progress}
    (hAttempt :
      ∀ length progress,
        (attempt length progress).1 ≠ .exhausted)
    (shortest count : Nat)
    (progress : Progress) :
    (tryLengths attempt shortest count progress).1 ≠
      .exhausted := by
  induction count generalizing progress with
  | zero => exact (nomatch ·)
  | succ count ih =>
      rw [tryLengths]
      split
      · exact ih _
      · exact hAttempt (shortest + count) progress

/- Without a budget there is nothing to exhaust. -/
theorem explore_none_ne_exhausted
    (data : ByteArray)
    (slots : List Slot)
    (place : Place)
    (progress : Progress) :
    (explore data none slots place progress).1 ≠
      .exhausted := by
  induction slots generalizing place progress with
  | nil =>
      rw [explore_nil]
      split <;> exact (nomatch ·)
  | cons slot later ih =>
      cases hCandidates :
          slot.candidates data place.offset with
      | none =>
          rw [explore_cons_of_none hCandidates]
          exact (nomatch ·)
      | some range =>
          have hAttempt :
              ∀ length progress,
                (attempt data none slot
                    (explore data none later) place length
                    progress).1 ≠ .exhausted := by
            intro length progress
            have hResult := attempted data none slot
              (explore data none later) place length progress
            revert hResult
            generalize attempt data none slot
              (explore data none later) place length
              progress = ended
            intro hResult
            cases hResult with
            | exhausted hExceeds =>
                rw [exceeds_none] at hExceeds
                exact nomatch hExceeds
            | unfit _ _ => exact (nomatch ·)
            | remembered _ _ _ => exact (nomatch ·)
            | explored _ _ _ =>
                rw [Ne, Outcome.prepend_eq_exhausted_iff]
                exact ih (place.after length) progress.advance
          rw [explore_cons_of_some hCandidates, Ne,
            settle_exhausted_iff]
          exact tryLengths_ne_exhausted hAttempt
            range.shortest range.count progress

@[simp] theorem withBudget_start
    (pieces : List Piece)
    (data : ByteArray)
    (budget other : Option Int) :
    (start pieces data budget).withBudget other =
      start pieces data other :=
  rfl

@[simp] theorem steps_start
    (pieces : List Piece)
    (data : ByteArray)
    (budget : Option Int) :
    (start pieces data budget).steps = 0 :=
  rfl

/- A run that stays within its budget ignores it. -/
theorem run_of_ne_exhausted
    {search : Search}
    (hEnds : search.run.1 ≠ .exhausted) :
    search.run.1 = (search.withBudget none).run.1 ∧
      search.run.2.progress =
        (search.withBudget none).run.2.progress := by
  rcases search with ⟨slots, data, budget, progress⟩
  cases budget with
  | none => exact ⟨rfl, rfl⟩
  | some limit =>
      have hTruncated := explore_truncated data limit slots
        ⟨0, 0⟩ progress
      unfold run withBudget at *
      simp only at *
      generalize explore data (some limit) slots ⟨0, 0⟩
        progress = limited at *
      cases hTruncated with
      | within _ => exact ⟨rfl, rfl⟩
      | cut _ _ hOutcome _ => exact absurd hOutcome hEnds

/-
  The steps of a run without a limit tell how the run under a
  limit ends: as that run, or with the first step beyond the
  limit.
-/
theorem run_of_limit
    (search : Search)
    (limit : Int) :
    if (search.withBudget none).run.2.steps = search.steps ∨
        ((search.withBudget none).run.2.steps : Int) ≤ limit
    then
      (search.withBudget (some limit)).run.1 =
          (search.withBudget none).run.1 ∧
        (search.withBudget (some limit)).run.2.steps =
          (search.withBudget none).run.2.steps
    else
      (search.withBudget (some limit)).run.1 = .exhausted ∧
        ((search.withBudget (some limit)).run.2.steps :
            Int) = max limit search.steps + 1 := by
  have hTruncated := explore_truncated search.data limit
    search.slots ⟨0, 0⟩ search.progress
  unfold run withBudget steps
  simp only
  generalize explore search.data (some limit) search.slots
    ⟨0, 0⟩ search.progress = limited at *
  cases hTruncated with
  | within hWithin =>
      rw [if_pos hWithin]
      exact ⟨rfl, rfl⟩
  | cut hStart hLimit hOutcome hSteps =>
      rw [if_neg (by omega)]
      exact ⟨hOutcome, hSteps⟩

end Search

end TextTemplate

------------------------------------------------------------
-- Limited Matches
------------------------------------------------------------

namespace TextTemplate

namespace Match

/- What comes of a search does not mention its budget. -/
theorem conclude_result_congr
    {pieces : List Piece}
    {data : ByteArray}
    {extent : Extent}
    {ended other : Outcome × Search}
    (hOutcome : ended.1 = other.1)
    (hSteps : ended.2.steps = other.2.steps) :
    (conclude pieces data extent ended).2 =
      (conclude pieces data extent other).2 := by
  unfold conclude
  rw [hOutcome, hSteps]

/-
  A match under a limit is the match without one, or it stops
  with the first step beyond the limit.
-/
theorem pieces_of_limit
    (pieces : List Piece)
    (data : ByteArray)
    (limit : Int) :
    let steps := (Search.start pieces data none).run.2.steps
    (Match.pieces pieces data (some limit)).result =
      if steps = 0 ∨ (steps : Int) ≤ limit then
        (Match.pieces pieces data none).result
      else
        .error (.exhausted (limit.toNat + 1)) := by
  have hRun :=
    (Search.start pieces data none).run_of_limit limit
  rw [Search.withBudget_start, Search.withBudget_start,
    Search.steps_start] at hRun
  intro steps
  by_cases hWithin : steps = 0 ∨ (steps : Int) ≤ limit
  · rw [if_pos hWithin] at hRun ⊢
    exact conclude_result_congr hRun.1 hRun.2
  · rw [if_neg hWithin] at hRun ⊢
    rcases hRun with ⟨hOutcome, hSteps⟩
    have hCount :
        (Search.start pieces data (some limit)).run.2.steps =
          limit.toNat + 1 := by
      omega
    unfold Match.pieces conclude
    simp only [hOutcome, hCount]

/- Without a budget a match does not run out of it. -/
theorem pieces_none_ne_exhausted
    (pieces : List Piece)
    (data : ByteArray)
    (steps : Nat) :
    (Match.pieces pieces data none).result ≠
      .error (.exhausted steps) := by
  have hEnds := Search.explore_none_ne_exhausted data
    (Slot.ofPieces pieces) ⟨0, 0⟩ .start
  change
    (conclude pieces data _
      (Search.start pieces data none).run).2 ≠ _
  unfold conclude
  cases hOutcome :
      (Search.start pieces data none).run.1 with
  | found lengths =>
      simp only
      split <;> exact (nomatch ·)
  | stuck => exact (nomatch ·)
  | exhausted => exact absurd hOutcome hEnds

/- The same for a template that may turn out malformed. -/
theorem all_of_limit
    (source input : String) :
    ∃ steps : Nat, ∀ limit : Int,
      (Match.all source input (some limit)).result =
        if steps = 0 ∨ (steps : Int) ≤ limit then
          (Match.all source input none).result
        else
          .error
            (.unmatched (.exhausted (limit.toNat + 1))) := by
  cases hParse : Template.parse source with
  | error error =>
      refine ⟨0, fun limit => ?_⟩
      rw [if_pos (Or.inl rfl), all_of_unread hParse,
        all_of_unread hParse]
  | ok template =>
      refine
        ⟨(Search.start template.pieces (Utf8.encode input)
          none).run.2.steps, fun limit => ?_⟩
      rw [all_of_read hParse, all_of_read hParse,
        pieces_of_limit]
      split <;> rfl

theorem all_none_ne_exhausted
    (source input : String)
    (steps : Nat) :
    (Match.all source input none).result ≠
      .error (.unmatched (.exhausted steps)) := by
  cases hParse : Template.parse source with
  | error error =>
      rw [all_of_unread hParse]
      exact (nomatch ·)
  | ok template =>
      have hMatched := pieces_none_ne_exhausted
        template.pieces (Utf8.encode input) steps
      rw [all_of_read hParse]
      cases hResult :
          (Match.pieces template.pieces (Utf8.encode input)
            none).result with
      | ok fields => exact (nomatch ·)
      | error failure =>
          intro hExhausted
          injection hExhausted with hExhausted
          injection hExhausted with hExhausted
          rw [hResult, hExhausted] at hMatched
          exact hMatched rfl

/-
  The result of a match is the same under any budget that
  does not exhaust it.
-/
theorem all_eq_none_of_ne_exhausted
    {source input : String}
    {budget : Option Int}
    (hEnds :
      ∀ steps,
        (Match.all source input budget).result ≠
          .error (.unmatched (.exhausted steps))) :
    (Match.all source input budget).result =
      (Match.all source input none).result := by
  cases budget with
  | none => rfl
  | some limit =>
      rcases all_of_limit source input with ⟨steps, hLimit⟩
      have hResult := hLimit limit
      split at hResult
      · exact hResult
      · exact absurd hResult (hEnds _)

/- What ends under a limit ends under a higher one. -/
theorem all_ne_exhausted_of_le
    {source input : String}
    {limit higher : Int}
    (hHigher : limit ≤ higher)
    (hEnds :
      ∀ steps,
        (Match.all source input (some limit)).result ≠
          .error (.unmatched (.exhausted steps)))
    (steps : Nat) :
    (Match.all source input (some higher)).result ≠
      .error (.unmatched (.exhausted steps)) := by
  rcases all_of_limit source input with ⟨taken, hLimit⟩
  by_cases hWithin : taken = 0 ∨ (taken : Int) ≤ limit
  · rw [hLimit higher, if_pos (by omega)]
    exact all_none_ne_exhausted source input steps
  · have hResult := hLimit limit
    rw [if_neg hWithin] at hResult
    exact absurd hResult (hEnds _)

end Match

/-
  A budget only truncates a search.  From any state, a run
  under a limit ends as the run without one and with as many
  steps, or, if that takes too many, with the first step that
  is beyond the limit.  A match under a budget therefore
  fails to match only if it does so without one, and a higher
  budget changes nothing but an exhausted search.
-/
theorem limit_only_truncates :
    (∀ (search : Search) (limit : Int),
      let unlimited := (search.withBudget none).run
      let limited := (search.withBudget (some limit)).run
      let taken := unlimited.2.steps - search.steps
      unlimited.1 ≠ .exhausted ∧
      unlimited.2.steps = search.steps + taken ∧
      if taken = 0 ∨ (search.steps : Int) + taken ≤ limit
      then
        limited.1 = unlimited.1 ∧
          limited.2.steps = search.steps + taken
      else
        limited.1 = .exhausted ∧
          (limited.2.steps : Int) =
            max limit search.steps + 1) ∧
    (∀ (pieces : List Piece) (data : ByteArray)
        (limit : Int),
      let taken :=
        (Search.start pieces data none).run.2.steps
      (Match.pieces pieces data (some limit)).result =
        if taken = 0 ∨ (taken : Int) ≤ limit then
          (Match.pieces pieces data none).result
        else
          .error (.exhausted (limit.toNat + 1))) ∧
    (∀ (source input : String) (budget : Option Int)
        (data : ByteArray),
      (Match.all source input budget).result =
          .error (.unmatched (.doesNotMatch data)) →
        (Match.all source input none).result =
          .error (.unmatched (.doesNotMatch data))) ∧
    (∀ (source input : String) (limit : Int)
        (higher : Option Int),
      (∀ bound ∈ higher, limit ≤ bound) →
      (∀ steps,
        (Match.all source input (some limit)).result ≠
          .error (.unmatched (.exhausted steps))) →
        (Match.all source input higher).result =
          (Match.all source input (some limit)).result) := by
  refine ⟨?_, Match.pieces_of_limit, ?_, ?_⟩
  · intro search limit unlimited limited taken
    have hEnds : unlimited.1 ≠ .exhausted :=
      Search.explore_none_ne_exhausted _ _ _ _
    have hSteps : search.steps ≤ unlimited.2.steps :=
      Search.explore_steps_le _ _ _ _ _
    have hTaken :
        unlimited.2.steps = search.steps + taken := by
      omega
    have hWithin :
        (unlimited.2.steps = search.steps ∨
            (unlimited.2.steps : Int) ≤ limit) ↔
          taken = 0 ∨
            (search.steps : Int) + taken ≤ limit := by
      omega
    refine ⟨hEnds, hTaken, ?_⟩
    simp only [← hWithin, ← hTaken]
    exact search.run_of_limit limit
  · intro source input budget data hFails
    rw [← hFails]
    symm
    apply Match.all_eq_none_of_ne_exhausted
    intro steps
    rw [hFails]
    exact (nomatch ·)
  · intro source input limit higher hHigher hEnds
    rw [Match.all_eq_none_of_ne_exhausted hEnds]
    cases higher with
    | none => rfl
    | some bound =>
        apply Match.all_eq_none_of_ne_exhausted
        exact Match.all_ne_exhausted_of_le
          (hHigher bound rfl) hEnds

/- Five steps are enough for a field before a letter. -/
theorem limit_only_truncates_one_field :
    (Match.all "{x}b" "ab" (some 5)).result.isOk = true ∧
      (Match.all "{x}b" "ab" (some 7)).result =
        (Match.all "{x}b" "ab" (some 5)).result := by
  have hOk :
      (Match.all "{x}b" "ab" (some 5)).result.isOk =
        true := by
    decide +kernel
  refine ⟨hOk, ?_⟩
  apply limit_only_truncates.2.2.2
  · decide
  · intro steps hExhausted
    rw [hExhausted] at hOk
    exact nomatch hOk

end TextTemplate
