import TextTemplate.Interval.Clamp

/-
  What fitting an interval into a range does to its values.

  The ends that are present stay as they are.  An interval
  that would have values outside the range is refused, and
  one that is not refused keeps exactly the values that it
  has in the range.

  Main declarations:
    * `Interval.Completed`
    * `Interval.mem_clamped_iff`
    * `BoundedInterval.isWithin_iff_forall`
    * `BoundedInterval.isWithin_span_iff_forall`
    * `Interval.Fitted`
    * `Interval.boundedWithin_keeps_values`
-/

------------------------------------------------------------
-- Values That Satisfy an End
------------------------------------------------------------

namespace TextTemplate

namespace LowBound

/- Whether an integer satisfies a lower end. -/
def Allows : LowBound → Int → Prop
  | .inclusive bound, value => bound ≤ value
  | .after bound, value => bound < value

theorem first_le_iff
    {bound : LowBound}
    {value : Int} :
    bound.first ≤ value ↔ bound.Allows value := by
  cases bound with
  | inclusive bound => exact Iff.rfl
  | after bound => exact Int.add_one_le_iff

end LowBound

namespace HighBound

/- Whether an integer satisfies an upper end. -/
def Allows : HighBound → Int → Prop
  | .inclusive bound, value => value ≤ bound
  | .before bound, value => value < bound

theorem le_last_iff
    {bound : HighBound}
    {value : Int} :
    value ≤ bound.last ↔ bound.Allows value := by
  cases bound with
  | inclusive bound => exact Iff.rfl
  | before bound => exact Int.le_sub_one_iff

end HighBound

namespace Interval

/- The values of an interval satisfy its ends. -/
theorem mem_iff_allows
    {interval : Interval}
    {value : Int} :
    value ∈ interval ↔
      (∀ low ∈ interval.low, low.Allows value) ∧
        ∀ high ∈ interval.high, high.Allows value := by
  simp only [mem_iff, first, last, Option.mem_def,
    Option.map_eq_some_iff, forall_exists_index, and_imp,
    forall_apply_eq_imp_iff₂, LowBound.first_le_iff,
    HighBound.le_last_iff]

end Interval

end TextTemplate

------------------------------------------------------------
-- Clamped Intervals
------------------------------------------------------------

namespace TextTemplate

namespace Interval

theorem clamped_first
    (interval : Interval)
    (lowest highest : Int) :
    (interval.clamped lowest highest).first =
      interval.first.getD lowest := by
  cases hLow : interval.low <;>
    simp [clamped, BoundedInterval.first, first, hLow,
      LowBound.first]

theorem clamped_last
    (interval : Interval)
    (lowest highest : Int) :
    (interval.clamped lowest highest).last =
      interval.last.getD highest := by
  cases hHigh : interval.high <;>
    simp [clamped, BoundedInterval.last, last, hHigh,
      HighBound.last]

/-
  Whether an integer satisfies both ends of an interval,
  where the end of a range stands in for an absent one.
-/
structure Completed
    (interval : Interval)
    (lowest highest value : Int) : Prop where
  low :
    interval.low.elim (lowest ≤ value)
      fun low => low.Allows value
  high :
    interval.high.elim (value ≤ highest)
      fun high => high.Allows value

/- Clamping an interval completes it. -/
theorem mem_clamped_iff
    {interval : Interval}
    {lowest highest value : Int} :
    value ∈ interval.clamped lowest highest ↔
      interval.Completed lowest highest value := by
  have hLow :
      (interval.clamped lowest highest).first ≤ value ↔
        interval.low.elim (lowest ≤ value)
          fun low => low.Allows value := by
    rw [BoundedInterval.first, LowBound.first_le_iff, clamped]
    cases interval.low <;> exact Iff.rfl
  have hHigh :
      value ≤ (interval.clamped lowest highest).last ↔
        interval.high.elim (value ≤ highest)
          fun high => high.Allows value := by
    rw [BoundedInterval.last, HighBound.le_last_iff, clamped]
    cases interval.high <;> exact Iff.rfl
  rw [BoundedInterval.mem_iff, hLow, hHigh]
  exact ⟨fun h => ⟨h.1, h.2⟩, fun h => ⟨h.low, h.high⟩⟩

/-
  Within a range, an interval has the values that it has
  when it is completed.
-/
theorem completed_iff_mem
    {interval : Interval}
    {lowest highest value : Int}
    (hLowest : lowest ≤ value)
    (hHighest : value ≤ highest) :
    interval.Completed lowest highest value ↔
      value ∈ interval := by
  have hLow :
      (interval.low.elim (lowest ≤ value)
          fun low => low.Allows value) ↔
        ∀ low ∈ interval.low, low.Allows value := by
    cases interval.low with
    | none => simp [hLowest]
    | some low => simp
  have hHigh :
      (interval.high.elim (value ≤ highest)
          fun high => high.Allows value) ↔
        ∀ high ∈ interval.high, high.Allows value := by
    cases interval.high with
    | none => simp [hHighest]
    | some high => simp
  rw [mem_iff_allows, ← hLow, ← hHigh]
  exact ⟨fun h => ⟨h.low, h.high⟩, fun h => ⟨h.1, h.2⟩⟩

end Interval

end TextTemplate

------------------------------------------------------------
-- Intervals Within a Range
------------------------------------------------------------

namespace TextTemplate

namespace BoundedInterval

/- There is a value if the first is not beyond the last. -/
theorem exists_mem_iff
    {interval : BoundedInterval} :
    (∃ value, value ∈ interval) ↔
      interval.first ≤ interval.last := by
  simp only [mem_iff]
  constructor
  · rintro ⟨value, hFirst, hLast⟩
    exact Int.le_trans hFirst hLast
  · intro hOrdered
    exact ⟨interval.first, Int.le_refl _, hOrdered⟩

/-
  A nonempty interval holds another nonempty one between its
  ends.
-/
theorem isWithin_iff
    {inner outer : BoundedInterval} :
    inner.isWithin outer = true ↔
      outer.first ≤ outer.last ∧
        (inner.first ≤ inner.last →
          outer.first ≤ inner.first ∧
            inner.last ≤ outer.last) := by
  have hEmpty (interval : BoundedInterval) :
      interval.isEmpty = true ↔
        interval.last < interval.first :=
    decide_eq_true_iff
  rw [isWithin, Bool.and_eq_true, Bool.not_eq_true',
    ← Bool.not_eq_true, hEmpty, Bool.or_eq_true, hEmpty,
    Bool.and_eq_true, decide_eq_true_eq, decide_eq_true_eq]
  omega

/-
  A nonempty interval holds another one when it holds every
  value of it.
-/
theorem isWithin_iff_forall
    {inner outer : BoundedInterval} :
    inner.isWithin outer = true ↔
      (∃ value, value ∈ outer) ∧
        ∀ value ∈ inner, value ∈ outer := by
  rw [isWithin_iff, exists_mem_iff]
  refine and_congr_right fun _ => ?_
  constructor
  · intro hEnds value hValue
    rw [mem_iff] at hValue ⊢
    omega
  · intro hValues hOrdered
    have hFirst := hValues inner.first
      (mem_iff.mpr ⟨Int.le_refl _, hOrdered⟩)
    have hLast := hValues inner.last
      (mem_iff.mpr ⟨hOrdered, Int.le_refl _⟩)
    exact ⟨(mem_iff.mp hFirst).1, (mem_iff.mp hLast).2⟩

/- A span holds a nonempty interval between its ends. -/
theorem isWithin_span_iff
    (interval : BoundedInterval)
    (lowest highest : Int) :
    interval.isWithin (.span lowest highest) = true ↔
      lowest ≤ highest ∧
        (interval.first ≤ interval.last →
          lowest ≤ interval.first ∧
            interval.last ≤ highest) :=
  isWithin_iff

/- A span holds an interval when it holds every value. -/
theorem isWithin_span_iff_forall
    {interval : BoundedInterval}
    {lowest highest : Int} :
    interval.isWithin (.span lowest highest) = true ↔
      lowest ≤ highest ∧
        ∀ value ∈ interval,
          lowest ≤ value ∧ value ≤ highest := by
  rw [isWithin_iff_forall, exists_mem_iff]
  simp only [mem_iff]
  exact Iff.rfl

end BoundedInterval

namespace Interval

/- An interval that is not refused is clamped. -/
theorem boundedWithin_eq_ok_iff
    {interval : Interval}
    {lowest highest : Int}
    {bounded : BoundedInterval} :
    interval.boundedWithin lowest highest = .ok bounded ↔
      (interval.clamped lowest highest).isWithin
          (.span lowest highest) = true ∧
        interval.clamped lowest highest = bounded := by
  rw [boundedWithin]
  split
  · rename_i hWithin
    simp [hWithin]
  · rename_i hOutside
    simp [hOutside]

/- An error names the interval and the range. -/
theorem boundedWithin_eq_error_iff
    {interval : Interval}
    {lowest highest : Int}
    {error : OutOfBounds Interval} :
    interval.boundedWithin lowest highest = .error error ↔
      ¬ (interval.clamped lowest highest).isWithin
          (.span lowest highest) = true ∧
        ⟨interval, lowest, highest⟩ = error := by
  rw [boundedWithin]
  split
  · rename_i hWithin
    simp [hWithin]
  · rename_i hOutside
    simp [hOutside]

end Interval

namespace BoundedInterval

/- A bounded interval is fitted as an interval is. -/
theorem boundedWithin_eq
    (interval : BoundedInterval)
    (lowest highest : Int) :
    interval.boundedWithin lowest highest =
      (interval.toInterval.boundedWithin lowest
        highest).mapError
          fun _ => ⟨interval, lowest, highest⟩ := by
  have hClamped :
      interval.toInterval.clamped lowest highest =
        interval :=
    rfl
  rw [boundedWithin, Interval.boundedWithin]
  simp only [hClamped]
  split <;> rfl

end BoundedInterval

end TextTemplate

------------------------------------------------------------
-- Fitted Intervals
------------------------------------------------------------

namespace TextTemplate

namespace Interval

/-
  What a bounded interval keeps of the interval that was
  fitted into a range to give it.
-/
structure Fitted
    (interval : Interval)
    (lowest highest : Int)
    (bounded : BoundedInterval) : Prop where
  low_eq : ∀ low ∈ interval.low, bounded.low = low
  high_eq : ∀ high ∈ interval.high, bounded.high = high
  isWithin :
    bounded.isWithin (.span lowest highest) = true
  mem_iff :
    ∀ value, value ∈ bounded ↔
      value ∈ interval ∧ lowest ≤ value ∧ value ≤ highest
  stable :
    bounded.boundedWithin lowest highest = .ok bounded

/- A clamped interval in the range is fitted. -/
theorem fitted_clamped
    {interval : Interval}
    {lowest highest : Int}
    (hWithin :
      (interval.clamped lowest highest).isWithin
        (.span lowest highest) = true) :
    interval.Fitted lowest highest
      (interval.clamped lowest highest) := by
  have hValues :=
    (BoundedInterval.isWithin_span_iff_forall.mp hWithin).2
  refine ⟨?_, ?_, hWithin, ?_, ?_⟩
  · intro low hLow
    rw [Option.mem_def] at hLow
    rw [clamped, hLow]
    rfl
  · intro high hHigh
    rw [Option.mem_def] at hHigh
    rw [clamped, hHigh]
    rfl
  · intro value
    constructor
    · intro hValue
      have hRange := hValues value hValue
      have hMem :=
        (completed_iff_mem hRange.1 hRange.2).mp
          (mem_clamped_iff.mp hValue)
      exact ⟨hMem, hRange⟩
    · rintro ⟨hMem, hLowest, hHighest⟩
      exact mem_clamped_iff.mpr
        ((completed_iff_mem hLowest hHighest).mpr hMem)
  · rw [BoundedInterval.boundedWithin, if_pos hWithin]

/-
  An interval with one end that has no values in a range is
  clamped to no values.
-/
theorem clamped_isEmpty_of_one_end
    {interval : Interval}
    {lowest highest : Int}
    (hRange : lowest ≤ highest)
    (hOneEnd :
      interval.low.isSome ≠ interval.high.isSome)
    (hBeyond :
      ∀ value ∈ interval,
        value < lowest ∨ highest < value) :
    (interval.clamped lowest highest).isEmpty = true := by
  rw [BoundedInterval.isEmpty, decide_eq_true_eq,
    clamped_first, clamped_last]
  -- the value next to the end would be in the range
  rcases interval with ⟨_ | low, _ | high⟩
  · exact absurd rfl hOneEnd
  · have hMem :
        min highest high.last ∈
          (⟨none, some high⟩ : Interval) := by
      refine ⟨nofun, ?_⟩
      rintro _ ⟨rfl⟩
      exact Int.min_le_right _ _
    have hOutside := hBeyond _ hMem
    change high.last < lowest
    omega
  · have hMem :
        max lowest low.first ∈
          (⟨some low, none⟩ : Interval) := by
      refine ⟨?_, nofun⟩
      rintro _ ⟨rfl⟩
      exact Int.le_max_right _ _
    have hOutside := hBeyond _ hMem
    change highest < low.first
    omega
  · exact absurd rfl hOneEnd

/-
  Fitting an interval into a range never cuts off a value.
  The interval is refused exactly if the range is empty or
  if the interval, completed with the ends of the range, has
  a value outside.  Otherwise the ends that are present stay
  and just the values in the range are left, which fit into
  the range as they are.  An interval with one end that lies
  beyond the range is not refused but has no values left.
-/
theorem boundedWithin_keeps_values
    (interval : Interval)
    (lowest highest : Int) :
    (∀ error,
      interval.boundedWithin lowest highest =
          .error error ↔
        ⟨interval, lowest, highest⟩ = error ∧
          (highest < lowest ∨
            ∃ value,
              interval.Completed lowest highest value ∧
                (value < lowest ∨ highest < value))) ∧
    (lowest ≤ highest →
      (∀ value,
        interval.Completed lowest highest value →
          lowest ≤ value ∧ value ≤ highest) →
        ∃ bounded,
          interval.boundedWithin lowest highest =
              .ok bounded ∧
            interval.Fitted lowest highest bounded) ∧
    (lowest ≤ highest →
      interval.low.isSome ≠ interval.high.isSome →
      (∀ value ∈ interval,
        value < lowest ∨ highest < value) →
        ∃ bounded,
          interval.boundedWithin lowest highest =
              .ok bounded ∧
            bounded.isEmpty = true) ∧
    (∀ bounded : BoundedInterval,
      bounded.boundedWithin lowest highest =
        (bounded.toInterval.boundedWithin lowest
          highest).mapError
            fun _ => ⟨bounded, lowest, highest⟩) := by
  refine ⟨?_, ?_, ?_, ?_⟩
  · intro error
    rw [boundedWithin_eq_error_iff,
      BoundedInterval.isWithin_span_iff_forall, and_comm]
    simp only [mem_clamped_iff,
      Classical.not_and_iff_not_or_not,
      Classical.not_forall, Int.not_le, exists_prop]
  · intro hRange hInside
    have hWithin :
        (interval.clamped lowest highest).isWithin
          (.span lowest highest) = true := by
      rw [BoundedInterval.isWithin_span_iff_forall]
      refine ⟨hRange, ?_⟩
      intro value hValue
      exact hInside value (mem_clamped_iff.mp hValue)
    exact
      ⟨_, boundedWithin_eq_ok_iff.mpr ⟨hWithin, rfl⟩,
        fitted_clamped hWithin⟩
  · intro hRange hOneEnd hBeyond
    have hEmpty :=
      clamped_isEmpty_of_one_end hRange hOneEnd hBeyond
    have hWithin :
        (interval.clamped lowest highest).isWithin
          (.span lowest highest) = true := by
      rw [BoundedInterval.isEmpty, decide_eq_true_eq]
        at hEmpty
      rw [BoundedInterval.isWithin_span_iff]
      omega
    exact
      ⟨_, boundedWithin_eq_ok_iff.mpr ⟨hWithin, rfl⟩, hEmpty⟩
  · intro bounded
    exact bounded.boundedWithin_eq lowest highest

/-
  In the range from 0 to 7, an interval before 5 is
  completed, and one after 8 has no values left.
-/
theorem boundedWithin_keeps_values_beyond :
    (∃ bounded,
      (⟨none, some (.before 5)⟩ : Interval).boundedWithin 0
          7 = .ok bounded ∧
        4 ∈ bounded ∧ 5 ∉ bounded) ∧
    ∃ bounded,
      (⟨some (.after 8), none⟩ : Interval).boundedWithin 0
          7 = .ok bounded ∧
        bounded.isEmpty = true := by
  have hBefore :=
    boundedWithin_keeps_values ⟨none, some (.before 5)⟩ 0 7
  have hAfter :=
    boundedWithin_keeps_values ⟨some (.after 8), none⟩ 0 7
  have hInside :
      ∀ value,
        Completed ⟨none, some (.before 5)⟩ 0 7 value →
          0 ≤ value ∧ value ≤ 7 := by
    rintro value ⟨hLow, hHigh⟩
    change 0 ≤ value at hLow
    change value < 5 at hHigh
    omega
  have hBeyond :
      ∀ value ∈ (⟨some (.after 8), none⟩ : Interval),
        value < 0 ∨ 7 < value := by
    rintro value ⟨hFirst, _⟩
    have hValue := hFirst 9 rfl
    omega
  refine ⟨?_, hAfter.2.2.1 (by decide) (by decide) hBeyond⟩
  rcases hBefore.2.1 (by decide) hInside with
    ⟨bounded, hBounded, hFitted⟩
  refine ⟨bounded, hBounded, ?_⟩
  rw [hFitted.mem_iff, hFitted.mem_iff]
  simp [Interval.mem_iff, first, last, HighBound.last]

end Interval

end TextTemplate
