/-
  Levels of events and what a reader asks to see of them.

  Key definitions include:
    * `Level.rank`
    * `Level.threshold`
-/

------------------------------------------------------------
-- Levels
------------------------------------------------------------

namespace TextTemplate

namespace Level

/- The rank of details. -/
def debugRank : Int :=
  10

/- The rank of ordinary events. -/
def infoRank : Int :=
  20

/- The rank of warnings. -/
def warningRank : Int :=
  30

/- The rank of errors. -/
def errorRank : Int :=
  40

/- The rank of the gravest errors. -/
def criticalRank : Int :=
  50

/-
  The rank of a level by its name.  An unknown name ranks
  as an ordinary event.
-/
def rank : String → Int
  | "critical" => criticalRank
  | "exception" => errorRank
  | "error" => errorRank
  | "warn" => warningRank
  | "warning" => warningRank
  | "info" => infoRank
  | "debug" => debugRank
  | "notset" => 0
  | _ => infoRank

/- The least rank shown at a degree of verbosity. -/
def threshold
    (verbosity : Int) : Int :=
  if 2 ≤ verbosity then
    debugRank
  else if 1 ≤ verbosity then
    infoRank
  else
    warningRank

end Level

end TextTemplate
