import TextTemplate.Log.File
import TextTemplate.Match

/-
  The events of notices, written and shown.

  Nothing stands in the way of the event of a notice, unless
  it tells a budget of too many digits.  Such an event is not
  written, and cannot be shown either, if its level is high
  enough to be shown.

  Main declarations:
    * `Notice.isLong`
    * `Notice.obstacles_event`
    * `Notice.line`
    * `Notice.ofEvent_eq`
-/

------------------------------------------------------------
-- Obstacles
------------------------------------------------------------

namespace TextTemplate

namespace Value

/- What stands in the way of entries is so of each of them. -/
theorem obstaclesOfEntries_append
    (entries later : List (Key × Value)) :
    obstaclesOfEntries (entries ++ later) =
      obstaclesOfEntries entries ++
        obstaclesOfEntries later := by
  induction entries with
  | nil => rfl
  | cons entry rest ih =>
      simp only [List.cons_append, obstaclesOfEntries, ih,
        List.append_assoc]

/- Counts never stand in the way of a list of them. -/
theorem obstaclesOfItems_counts
    (counts : List Nat) :
    obstaclesOfItems (counts.map .count) = [] := by
  induction counts with
  | nil => rfl
  | cons count later ih =>
      rw [List.map_cons, obstaclesOfItems, ih]
      rfl

end Value

namespace Notice

/- Whether a notice tells a budget of too many digits. -/
def isLong : Notice → Bool
  | .matchBegun _ (some limit) => Numeral.isLong limit
  | _ => false

/- What stands in the way of the values of a notice. -/
theorem obstaclesOfEntries_pairs
    (notice : Notice) :
    Value.obstaclesOfEntries notice.pairs =
      if notice.isLong then [.longNumber] else [] := by
  cases notice with
  | matchBegun extent budget =>
      cases budget with
      | none => rfl
      | some limit =>
          rw [pairs, Value.obstaclesOfEntries_append]
          change Obstacle.ofNumber limit ++ [] = _
          rw [List.append_nil]
          rfl
  | matchFound extent steps lengths =>
      rw [pairs, Value.obstaclesOfEntries_append]
      change Value.obstaclesOfItems _ ++ [] = _
      rw [Value.obstaclesOfItems_counts]
      rfl
  | _ => rfl

/- What stands in the way of writing a notice. -/
theorem obstacles_event
    (notice : Notice) :
    notice.event.obstacles =
      if notice.isLong then [.longNumber] else [] := by
  rw [← obstaclesOfEntries_pairs]
  change Value.obstaclesOfEntries (_ ++ _) = _
  rw [Value.obstaclesOfEntries_append]
  exact List.append_nil _

end Notice

end TextTemplate

------------------------------------------------------------
-- Lines
------------------------------------------------------------

namespace TextTemplate

namespace Notice

/- The line that shows a notice. -/
def line
    (notice : Notice) : String :=
  Line.heading notice.level ++ notice.name ++ ": " ++
    Line.pairs notice.event

/- An event has the name of its notice. -/
theorem get?_event
    (notice : Notice) :
    notice.event.get? "event" = some (.text notice.name) := by
  cases notice <;> rfl

/- All values of a notice are listed on its line. -/
theorem others_event
    (notice : Notice) :
    Line.others notice.event = notice.pairs := by
  cases notice <;> rfl

/- A line has too long a number if its notice has. -/
theorem isLong_event
    (notice : Notice) :
    Line.isLong (.text notice.name) notice.event =
      notice.isLong := by
  rw [Line.isLong, others_event, obstaclesOfEntries_pairs,
    Value.obstacles]
  · cases notice.isLong <;> rfl
  all_goals simp

/- A notice is shown from its rank on, on its own line. -/
theorem ofEvent_eq
    (threshold : Int)
    (notice : Notice) :
    Line.ofEvent threshold notice.level notice.event =
      if Level.rank notice.level < threshold then
        .ok none
      else if notice.isLong then
        .error .longNumber
      else
        .ok (some notice.line) := by
  unfold Line.ofEvent Line.shown
  rw [get?_event]
  simp only [isLong_event, Value.display,
    LooseText.shown_ofString]
  split
  · rfl
  · cases notice.isLong <;> rfl

end Notice

end TextTemplate
