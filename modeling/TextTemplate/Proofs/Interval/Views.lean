import Mathlib.Algebra.Group.Nat.Defs
import TextTemplate.Interval.Walk
import TextTemplate.Proofs.Interval.Clamp

/-
  The views of a bounded interval agree.

  The values are listed in ascending order, and each other
  view follows from the listing: the descending order, the
  length, the inclusion in another interval and the walks.
  A walk that may end early visits the shortest part of the
  listing after which it ends.

  Main declarations:
    * `BoundedInterval.toList_pairwise`
    * `BoundedInterval.mem_toList_iff`
    * `BoundedInterval.descending_eq_reverse`
    * `BoundedInterval.walk_eq_foldl`
    * `Walk.EndsAfter`
    * `Walk.Visits`
    * `BoundedInterval.exists_visits`
    * `BoundedInterval.views_agree`
-/

------------------------------------------------------------
-- Listings
------------------------------------------------------------

namespace TextTemplate

namespace BoundedInterval

variable {interval : BoundedInterval}

theorem toList_eq
    (interval : BoundedInterval) :
    interval.toList =
      (List.range interval.count).map
        fun (step : Nat) => interval.first + step := by
  rw [toList, take, Nat.min_self]

theorem length_toList
    (interval : BoundedInterval) :
    interval.toList.length = interval.count := by
  rw [toList_eq, List.length_map, List.length_range]

/- The listing is strictly ascending. -/
theorem toList_pairwise
    (interval : BoundedInterval) :
    interval.toList.Pairwise (· < ·) := by
  rw [toList_eq, List.pairwise_map]
  refine List.pairwise_lt_range.imp ?_
  intro earlier later hLess
  omega

/- The listing has all the values and no others. -/
theorem mem_toList_iff
    {value : Int} :
    value ∈ interval.toList ↔ value ∈ interval := by
  rw [toList_eq, List.mem_map, mem_iff]
  simp only [List.mem_range, count]
  constructor
  · rintro ⟨step, hStep, rfl⟩
    omega
  · intro hValue
    exact
      ⟨(value - interval.first).toNat, by omega, by omega⟩

/- From the last value down, the listing is reversed. -/
theorem descending_eq_reverse
    (interval : BoundedInterval) :
    interval.descending = interval.toList.reverse := by
  rw [descending, takeDescending, Nat.min_self, toList_eq]
  refine List.ext_getElem (by simp) ?_
  intro step hStep _
  simp only [List.length_map, List.length_range, count]
    at hStep
  simp only [List.getElem_reverse, List.getElem_map,
    List.getElem_range, List.length_map, List.length_range,
    count]
  omega

/- An empty interval has no value. -/
theorem isEmpty_iff_forall :
    interval.isEmpty = true ↔
      ∀ value, value ∉ interval := by
  rw [← not_exists, exists_mem_iff, isEmpty,
    decide_eq_true_eq, Int.not_le]

end BoundedInterval

end TextTemplate

------------------------------------------------------------
-- Lengths
------------------------------------------------------------

namespace TextTemplate

namespace BoundedInterval

variable {interval : BoundedInterval}

/- How many values there may be if there is a length. -/
theorem count_le_maxLength_iff :
    interval.count ≤ maxLength ↔
      interval.toList.length < 2 ^ 63 := by
  rw [length_toList]
  change interval.count ≤ 2 ^ 63 - 1 ↔ _
  omega

theorem length_eq_ok_iff
    {size : Nat} :
    interval.length = .ok size ↔
      interval.toList.length < 2 ^ 63 ∧
        interval.toList.length = size := by
  rw [← count_le_maxLength_iff, length_toList, length]
  split
  · rename_i hShort
    simp [hShort]
  · rename_i hLong
    simp [hLong]

/- An interval with too many values has no length. -/
theorem length_eq_error_iff
    {error : LengthOverflow} :
    interval.length = .error error ↔
      2 ^ 63 ≤ interval.toList.length ∧
        ⟨interval.toList.length⟩ = error := by
  rw [← Nat.not_lt, ← count_le_maxLength_iff,
    length_toList, length]
  split
  · rename_i hShort
    simp [hShort]
  · rename_i hLong
    simp [hLong]

/- The values are listed if there is a length. -/
theorem listed_eq_map
    (interval : BoundedInterval) :
    interval.listed =
      interval.length.map fun _ => interval.toList := by
  rw [listed]
  cases interval.length with
  | ok size => rfl
  | error error => rfl

theorem listed_eq_ok_iff
    {values : List Int} :
    interval.listed = .ok values ↔
      interval.toList.length < 2 ^ 63 ∧
        interval.toList = values := by
  rw [listed_eq_map]
  cases hLength : interval.length with
  | ok size =>
      have hShort := (length_eq_ok_iff.mp hLength).1
      rw [and_iff_right hShort]
      exact ⟨Except.ok.inj, congrArg Except.ok⟩
  | error error =>
      have hLong := (length_eq_error_iff.mp hLength).1
      exact
        ⟨nofun, fun hShort =>
          absurd hShort.1 (Nat.not_lt.mpr hLong)⟩

theorem listed_eq_error_iff
    {error : LengthOverflow} :
    interval.listed = .error error ↔
      interval.length = .error error := by
  rw [listed_eq_map]
  cases interval.length with
  | ok size => exact ⟨nofun, nofun⟩
  | error error => simp [Except.map]

/-
  The naturals below two to the power of 63 are too many
  values for a list.
-/
theorem listed_span_overflow :
    ¬ ∃ values,
      (span 0 9223372036854775807).listed = .ok values ∧
        values.Pairwise (· < ·) ∧
        ∀ value,
          value ∈ values ↔
            value ∈ span 0 9223372036854775807 := by
  rintro ⟨values, hListed, _, _⟩
  have hShort := (listed_eq_ok_iff.mp hListed).1
  have hCount : (span 0 9223372036854775807).count = 2 ^ 63 :=
    rfl
  rw [length_toList, hCount] at hShort
  exact absurd hShort (Nat.lt_irrefl _)

end BoundedInterval

end TextTemplate

------------------------------------------------------------
-- Consecutive Integers
------------------------------------------------------------

namespace TextTemplate

/- A number of consecutive integers, the least one first. -/
def consecutive
    (value : Int) : Nat → List Int
  | 0 => []
  | remaining + 1 =>
      value :: consecutive (value + 1) remaining

theorem map_range_eq_consecutive
    (value : Int)
    (amount : Nat) :
    ((List.range amount).map fun (step : Nat) =>
        value + step) =
      consecutive value amount := by
  induction amount generalizing value with
  | zero => rfl
  | succ amount ih =>
      rw [List.range_succ_eq_map, List.map_cons,
        List.map_map, consecutive, ← ih]
      congr 1
      · exact Int.add_zero value
      · refine List.map_congr_left fun step _ => ?_
        simp only [Function.comp_apply, Nat.succ_eq_add_one]
        omega

namespace BoundedInterval

/- The values follow one another from the first one on. -/
theorem toList_eq_consecutive
    (interval : BoundedInterval) :
    interval.toList =
      consecutive interval.first interval.count := by
  rw [toList_eq, map_range_eq_consecutive]

variable {σ : Type}

theorem walkFrom_eq_foldl
    (step : σ → Int → σ)
    (state : σ)
    (value : Int)
    (amount : Nat) :
    walkFrom step state value amount =
      (consecutive value amount).foldl step state := by
  induction amount generalizing state value with
  | zero => rfl
  | succ amount ih =>
      rw [walkFrom, ih, consecutive, List.foldl_cons]

/- A walk is the left fold over the listing. -/
theorem walk_eq_foldl
    (interval : BoundedInterval)
    (state : σ)
    (step : σ → Int → σ) :
    interval.walk state step =
      interval.toList.foldl step state := by
  rw [walk, walkFrom_eq_foldl, toList_eq_consecutive]

end BoundedInterval

end TextTemplate

------------------------------------------------------------
-- Visited Values
------------------------------------------------------------

namespace TextTemplate

namespace Step

variable {σ ε : Type}

/- The state or the error that a step leads to. -/
def result : Step σ ε → Except ε σ
  | .next state => .ok state
  | .done state => .ok state
  | .fault error => .error error

/- Whether a walk does not go on after a step. -/
def Ends : Step σ ε → Prop
  | .next _ => False
  | .done _ => True
  | .fault _ => True

theorem next_or_ends
    (step : Step σ ε) :
    (∃ state, step = .next state) ∨ step.Ends := by
  cases step with
  | next state => exact .inl ⟨state, rfl⟩
  | done state => exact .inr trivial
  | fault error => exact .inr trivial

end Step

namespace Walk

variable {σ ε : Type}
variable {step : σ → Int → Step σ ε}
variable {state : σ}

/- The left fold of steps over values. -/
def fold
    (step : σ → Int → Step σ ε)
    (state : σ)
    (values : List Int) : Except ε σ :=
  values.foldlM
    (fun state value => (step state value).result) state

/-
  Whether a walk over values comes to an end after the first
  ones of them: after all, or after a step that ends it.
-/
inductive EndsAfter
    (step : σ → Int → Step σ ε)
    (state : σ)
    (values : List Int) : List Int → Prop where
  | whole : EndsAfter step state values values
  | early
      {front later : List Int}
      {value : Int}
      {last : σ}
      (hValues : values = front ++ value :: later)
      (hFront : fold step state front = .ok last)
      (hEnds : (step last value).Ends) :
      EndsAfter step state values (front ++ [value])

/-
  Whether a walk over values visits just the given ones,
  which are the fewest after which it comes to an end.
-/
structure Visits
    (step : σ → Int → Step σ ε)
    (state : σ)
    (values visited : List Int) : Prop where
  ends : EndsAfter step state values visited
  fewest :
    ∀ others,
      EndsAfter step state values others →
        visited <+: others

/-
  Whether every step of a walk goes on, with the states that
  a function gives.
-/
def GoesOn
    (step : σ → Int → Step σ ε)
    (f : σ → Int → σ)
    (state : σ)
    (values : List Int) : Prop :=
  ∀ front value later,
    values = front ++ value :: later →
      step (front.foldl f state) value =
        .next (f (front.foldl f state) value)

theorem fold_cons
    (step : σ → Int → Step σ ε)
    (state : σ)
    (value : Int)
    (later : List Int) :
    fold step state (value :: later) =
      (step state value).result.bind fun next =>
        fold step next later :=
  List.foldlM_cons

theorem fold_cons_of_next
    {next : σ}
    {value : Int}
    (hNext : step state value = .next next)
    (later : List Int) :
    fold step state (value :: later) =
      fold step next later := by
  rw [fold_cons, hNext]
  rfl

theorem fold_singleton
    (step : σ → Int → Step σ ε)
    (state : σ)
    (value : Int) :
    fold step state [value] =
      (step state value).result := by
  rw [fold_cons]
  cases step state value <;> rfl

/- Steps that agree on the values are folded alike. -/
theorem fold_congr
    {other : σ → Int → Step σ ε}
    {values : List Int}
    (hSame : ∀ state, ∀ value ∈ values,
      other state value = step state value)
    (state : σ) :
    fold other state values = fold step state values := by
  induction values generalizing state with
  | nil => rfl
  | cons value later ih =>
      have hFirst := hSame state value List.mem_cons_self
      have hLater := ih fun state value hValue =>
        hSame state value (List.mem_cons_of_mem _ hValue)
      rw [fold_cons, fold_cons, hFirst, funext hLater]

/- Where there is a value, it is visited. -/
theorem EndsAfter.exists_cons
    {value : Int}
    {later others : List Int}
    (hEnds :
      EndsAfter step state (value :: later) others) :
    ∃ rest, others = value :: rest := by
  cases hEnds with
  | whole => exact ⟨later, rfl⟩
  | @early front _ other _ hValues _ _ =>
      cases front with
      | nil =>
          injection hValues with hSame
          exact ⟨[], by rw [hSame, List.nil_append]⟩
      | cons first front =>
          injection hValues with hSame
          exact ⟨front ++ [other], by rw [hSame]; rfl⟩

/- A step that goes on leaves the end to the later ones. -/
theorem endsAfter_cons_iff
    {next : σ}
    {value : Int}
    {later others : List Int}
    (hNext : step state value = .next next) :
    EndsAfter step state (value :: later)
        (value :: others) ↔
      EndsAfter step next later others := by
  constructor
  · intro hEnds
    generalize hAll : value :: others = all at hEnds
    cases hEnds with
    | whole =>
        injection hAll with _ hSame
        exact hSame ▸ .whole
    | @early front _ _ _ hValues hFront hLast =>
        cases front with
        | nil =>
            -- the end would be at the step that goes on
            injection hValues with hSame
            injection hFront with hState
            rw [← hSame, ← hState, hNext] at hLast
            exact hLast.elim
        | cons first front =>
            injection hValues with hSame hLater
            injection hAll with _ hOthers
            rw [← hSame, fold_cons_of_next hNext] at hFront
            rw [hOthers]
            exact .early hLater hFront hLast
  · intro hEnds
    cases hEnds with
    | whole => exact .whole
    | @early front _ _ _ hValues hFront hLast =>
        rw [← fold_cons_of_next hNext] at hFront
        rw [hValues, ← List.cons_append, ← List.cons_append]
        exact .early rfl hFront hLast

/- A walk over no values visits none. -/
theorem visits_nil :
    Visits step state [] [] :=
  ⟨.whole, fun _ _ => List.nil_prefix⟩

/- After a step that goes on, the walk goes on. -/
theorem Visits.of_next
    {next : σ}
    {value : Int}
    {later visited : List Int}
    (hNext : step state value = .next next)
    (hLater : Visits step next later visited) :
    Visits step state (value :: later)
      (value :: visited) := by
  refine ⟨(endsAfter_cons_iff hNext).mpr hLater.ends, ?_⟩
  intro others hOthers
  rcases hOthers.exists_cons with ⟨rest, rfl⟩
  rw [List.prefix_cons_inj]
  exact hLater.fewest rest
    ((endsAfter_cons_iff hNext).mp hOthers)

/- A step that ends the walk is the last one. -/
theorem visits_of_ends
    {value : Int}
    {later : List Int}
    (hEnds : (step state value).Ends) :
    Visits step state (value :: later) [value] := by
  have hFirst :
      EndsAfter step state (value :: later) ([] ++ [value]) :=
    .early rfl rfl hEnds
  refine ⟨hFirst, ?_⟩
  intro others hOthers
  rcases hOthers.exists_cons with ⟨rest, rfl⟩
  exact List.prefix_append [value] rest

theorem EndsAfter.isPrefix
    {values others : List Int}
    (hEnds : EndsAfter step state values others) :
    others <+: values := by
  cases hEnds with
  | whole => exact List.prefix_rfl
  | early hValues _ _ =>
      exact
        ⟨_, (hValues.trans (List.append_cons _ _ _)).symm⟩

theorem EndsAfter.congr
    {other : σ → Int → Step σ ε}
    {values others : List Int}
    (hSame : ∀ state, ∀ value ∈ others,
      other state value = step state value)
    (hEnds : EndsAfter step state values others) :
    EndsAfter other state values others := by
  cases hEnds with
  | whole => exact .whole
  | @early front _ value last hValues hFront hLast =>
      have hFold : fold other state front = .ok last := by
        rw [fold_congr, hFront]
        intro state value hValue
        exact hSame state value
          (List.mem_append_left _ hValue)
      rw [← hSame last value (by simp)] at hLast
      exact .early hValues hFold hLast

/-
  The visited values stay the same for steps that agree on
  them.
-/
theorem Visits.congr
    {other : σ → Int → Step σ ε}
    {values visited : List Int}
    (hVisits : Visits step state values visited)
    (hSame : ∀ state, ∀ value ∈ visited,
      other state value = step state value) :
    Visits other state values visited := by
  refine ⟨hVisits.ends.congr hSame, ?_⟩
  intro others hOthers
  -- if others were fewer, the steps would agree on them too
  rcases List.prefix_or_prefix_of_prefix
      hVisits.ends.isPrefix hOthers.isPrefix with
    hFewer | hMore
  · exact hFewer
  · exact hVisits.fewest others
      (hOthers.congr fun state value hValue =>
        (hSame state value (hMore.subset hValue)).symm)

theorem Visits.unique
    {values visited visited' : List Int}
    (hVisits : Visits step state values visited)
    (hVisits' : Visits step state values visited') :
    visited = visited' := by
  have hFewer := hVisits.fewest _ hVisits'.ends
  have hFewer' := hVisits'.fewest _ hVisits.ends
  exact hFewer.eq_of_length_le hFewer'.length_le

end Walk

end TextTemplate

------------------------------------------------------------
-- Walks That May End Early
------------------------------------------------------------

namespace TextTemplate

namespace BoundedInterval

variable {σ ε : Type}

/- A step that ends a walk gives its outcome. -/
theorem walkUntilFrom_of_ends
    {step : σ → Int → Step σ ε}
    {state : σ}
    {value : Int}
    (hEnds : (step state value).Ends)
    (amount : Nat) :
    walkUntilFrom step state value (amount + 1) =
      (step state value).result := by
  rw [walkUntilFrom]
  cases hStep : step state value with
  | next next =>
      rw [hStep] at hEnds
      exact hEnds.elim
  | done last => rfl
  | fault error => rfl

/-
  A walk over consecutive integers visits the fewest of them
  after which it comes to an end.
-/
theorem exists_visits_walkUntilFrom
    (step : σ → Int → Step σ ε)
    (state : σ)
    (value : Int)
    (amount : Nat) :
    ∃ visited,
      Walk.Visits step state (consecutive value amount)
          visited ∧
        walkUntilFrom step state value amount =
          Walk.fold step state visited := by
  induction amount generalizing state value with
  | zero => exact ⟨[], Walk.visits_nil, rfl⟩
  | succ amount ih =>
      rcases (step state value).next_or_ends with
        ⟨next, hNext⟩ | hEnds
      · rcases ih next (value + 1) with
          ⟨visited, hVisits, hFold⟩
        refine ⟨_, hVisits.of_next hNext, ?_⟩
        rw [Walk.fold_cons_of_next hNext, ← hFold,
          walkUntilFrom, hNext]
      · refine ⟨[value], Walk.visits_of_ends hEnds, ?_⟩
        rw [Walk.fold_singleton, walkUntilFrom_of_ends hEnds]

/- The walk is the left fold over the visited values. -/
theorem exists_visits
    (interval : BoundedInterval)
    (state : σ)
    (step : σ → Int → Step σ ε) :
    ∃ visited,
      Walk.Visits step state interval.toList visited ∧
        interval.walkUntil state step =
          Walk.fold step state visited := by
  rw [toList_eq_consecutive]
  exact exists_visits_walkUntilFrom step state _ _

/- Steps on values that are not visited have no influence. -/
theorem walkUntil_congr
    {interval : BoundedInterval}
    {state : σ}
    {step other : σ → Int → Step σ ε}
    {visited : List Int}
    (hVisits :
      Walk.Visits step state interval.toList visited)
    (hSame : ∀ state, ∀ value ∈ visited,
      other state value = step state value) :
    interval.walkUntil state other =
      interval.walkUntil state step := by
  rcases exists_visits interval state step with
    ⟨front, hFront, hFold⟩
  rcases exists_visits interval state other with
    ⟨front', hFront', hFold'⟩
  obtain rfl := hFront.unique hVisits
  obtain rfl := hFront'.unique (hVisits.congr hSame)
  rw [hFold, hFold', Walk.fold_congr hSame]

theorem walkUntilFrom_eq_foldl
    {step : σ → Int → Step σ ε}
    {f : σ → Int → σ}
    {state : σ}
    {value : Int}
    {amount : Nat}
    (hNext :
      Walk.GoesOn step f state
        (consecutive value amount)) :
    walkUntilFrom step state value amount =
      .ok ((consecutive value amount).foldl f state) := by
  induction amount generalizing state value with
  | zero => rfl
  | succ amount ih =>
      have hFirst := hNext [] value _ rfl
      have hLater :
          Walk.GoesOn step f (f state value)
            (consecutive (value + 1) amount) := by
        intro front next later hValues
        refine hNext (value :: front) next later ?_
        rw [consecutive, hValues, List.cons_append]
      rw [List.foldl_nil] at hFirst
      rw [walkUntilFrom, hFirst, consecutive,
        List.foldl_cons]
      exact ih hLater

/- A walk whose steps all go on is a walk without an end. -/
theorem walkUntil_eq_walk
    {interval : BoundedInterval}
    {step : σ → Int → Step σ ε}
    {f : σ → Int → σ}
    {state : σ}
    (hNext : Walk.GoesOn step f state interval.toList) :
    interval.walkUntil state step =
      .ok (interval.walk state f) := by
  rw [toList_eq_consecutive] at hNext
  rw [walkUntil, walkUntilFrom_eq_foldl hNext,
    walk_eq_foldl, toList_eq_consecutive]

/-
  All views of an interval agree with the listing of its
  values, which is strictly ascending.  There is a list and
  a length for fewer than 2 ^ 63 values and for no others.
  A walk that may end early is the left fold over the fewest
  first values after which it comes to an end, and steps on
  other values have no influence on it.
-/
theorem views_agree
    (interval : BoundedInterval) :
    interval.toList.Pairwise (· < ·) ∧
    (∀ value,
      value ∈ interval.toList ↔ value ∈ interval) ∧
    (∀ values,
      interval.listed = .ok values ↔
        interval.toList.length < 2 ^ 63 ∧
          interval.toList = values) ∧
    (∀ error,
      interval.listed = .error error ↔
        interval.length = .error error) ∧
    interval.descending = interval.toList.reverse ∧
    (interval.isEmpty = true ↔
      ∀ value, value ∉ interval) ∧
    (∀ size,
      interval.length = .ok size ↔
        interval.toList.length < 2 ^ 63 ∧
          interval.toList.length = size) ∧
    (∀ error,
      interval.length = .error error ↔
        2 ^ 63 ≤ interval.toList.length ∧
          ⟨interval.toList.length⟩ = error) ∧
    (∀ outer : BoundedInterval,
      interval.isWithin outer = true ↔
        (∃ value, value ∈ outer) ∧
          ∀ value ∈ interval, value ∈ outer) ∧
    (∀ (β : Type) (f : Int → β),
      interval.map f = interval.toList.map f) ∧
    (∀ (σ : Type) (state : σ) (step : σ → Int → σ),
      interval.walk state step =
        interval.toList.foldl step state) ∧
    ∀ (σ ε : Type)
      (state : σ) (step : σ → Int → Step σ ε),
      (∃ visited,
        Walk.Visits step state interval.toList visited ∧
          interval.walkUntil state step =
            Walk.fold step state visited ∧
          ∀ other : σ → Int → Step σ ε,
            (∀ state, ∀ value ∈ visited,
              other state value = step state value) →
              interval.walkUntil state other =
                interval.walkUntil state step) ∧
      ∀ f,
        Walk.GoesOn step f state interval.toList →
          interval.walkUntil state step =
            .ok (interval.walk state f) := by
  refine
    ⟨interval.toList_pairwise, fun _ => mem_toList_iff,
      fun _ => listed_eq_ok_iff,
      fun _ => listed_eq_error_iff,
      interval.descending_eq_reverse, isEmpty_iff_forall,
      fun _ => length_eq_ok_iff,
      fun _ => length_eq_error_iff,
      fun _ => isWithin_iff_forall, fun _ _ => rfl,
      fun _ => interval.walk_eq_foldl, ?_⟩
  intro σ ε state step
  rcases interval.exists_visits state step with
    ⟨visited, hVisits, hFold⟩
  exact
    ⟨⟨visited, hVisits, hFold,
        fun _ => walkUntil_congr hVisits⟩,
      fun _ => walkUntil_eq_walk⟩

/-
  From -1 to 1, a sum whose steps all go on is that of a
  walk, and one that ends at 0 is not influenced by 1.
-/
theorem views_agree_across_zero :
    (⟨.after (-2), .before 2⟩ : BoundedInterval).walkUntil 5
        (fun state value =>
          (.next (state + value) : Step Int Unit)) =
      .ok ((⟨.after (-2), .before 2⟩ :
        BoundedInterval).walk 5 (· + ·)) ∧
    (⟨.after (-2), .before 2⟩ : BoundedInterval).walkUntil 5
        (fun state value =>
          if value = 0 then .done state
          else if value = 1 then .fault ()
          else .next (state + value)) =
      (⟨.after (-2), .before 2⟩ : BoundedInterval).walkUntil
        5
        (fun state value =>
          if value = 0 then (.done state : Step Int Unit)
          else .next (state + value)) := by
  have hWalks :=
    (views_agree
      ⟨.after (-2), .before 2⟩).2.2.2.2.2.2.2.2.2.2.2
      Int Unit 5
  refine ⟨(hWalks _).2 _ fun _ _ _ _ => rfl, ?_⟩
  rcases (hWalks _).1 with
    ⟨visited, hVisits, _, hOther⟩
  refine hOther _ ?_
  intro state value hValue
  have hFew : visited <+: [-1] ++ [0] :=
    hVisits.fewest _ (.early rfl rfl trivial)
  have hBelow : value ≠ 1 := by
    rintro rfl
    exact absurd (hFew.subset hValue) (by decide)
  simp only [if_neg hBelow]

end BoundedInterval

end TextTemplate
