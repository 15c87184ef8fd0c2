import TextTemplate.Text.CodePoint
import TextTemplate.Text.Numeral
import TextTemplate.Value.Double

/-
  The values that events carry.

  A `count` is the number of some things in memory.  An
  `object` has no written form and is known by its quoted
  form, as a key also by its kind.  A `custom` value stands
  for another value, its written form.

  Key definitions include:
    * `Key`
    * `Value`
    * `Obstacle`
    * `Value.obstacles`
-/

------------------------------------------------------------
-- Values
------------------------------------------------------------

namespace TextTemplate

/- A key of a record. -/
inductive Key where
  | null
  | bool (value : Bool)
  | number (value : Int)
  | float (value : Double)
  | text (value : LooseText)
  | bytes (value : ByteArray)
  | object (kind : String) (quoted : LooseText)
  deriving DecidableEq

instance : Coe LooseText Key where
  coe := .text

/- A value of an event. -/
inductive Value where
  | null
  | bool (value : Bool)
  | number (value : Int)
  | count (value : Nat)
  | float (value : Double)
  | text (value : LooseText)
  | bytes (value : ByteArray)
  | object (quoted : LooseText)
  | list (items : List Value)
  | tuple (items : List Value)
  | record (entries : List (Key × Value))
  | custom (form : Value)
  deriving Inhabited

namespace Value

/- A number or its absence. -/
def ofOption : Option Int → Value
  | some value => .number value
  | none => .null

end Value

end TextTemplate

------------------------------------------------------------
-- Obstacles
------------------------------------------------------------

namespace TextTemplate

/-
  Why a value cannot be written: a number has too many
  digits, or a key of a certain kind cannot be named.
-/
inductive Obstacle where
  | longNumber
  | unnamedKey (kind : String)
  deriving DecidableEq

namespace Obstacle

/- The wording for a value that cannot be written. -/
def message : Obstacle → String
  | .longNumber =>
      "Exceeds the limit (4300 digits) for integer string " ++
        "conversion; use sys.set_int_max_str_digits() to " ++
        "increase the limit"
  | .unnamedKey kind =>
      "keys must be str, int, float, bool or None, not " ++
        kind

/- What stands in the way of a number. -/
def ofNumber
    (value : Int) : List Obstacle :=
  if Numeral.isLong value then
    [.longNumber]
  else
    []

/- What stands in the way of a key. -/
def ofKey : Key → List Obstacle
  | .number value => ofNumber value
  | .bytes _ => [.unnamedKey "bytes"]
  | .object kind _ => [.unnamedKey kind]
  | _ => []

end Obstacle

namespace Value

mutual

/-
  What stands in the way of writing a value, in order.  The
  count of things in memory never does.
-/
def obstacles : Value → List Obstacle
  | .number value => Obstacle.ofNumber value
  | .list items => obstaclesOfItems items
  | .tuple items => obstaclesOfItems items
  | .record entries => obstaclesOfEntries entries
  | .custom form => obstacles form
  | _ => []

/- What stands in the way of the items of a list. -/
def obstaclesOfItems : List Value → List Obstacle
  | [] => []
  | item :: later =>
      obstacles item ++ obstaclesOfItems later

/- What stands in the way of the entries of a record. -/
def obstaclesOfEntries :
    List (Key × Value) → List Obstacle
  | [] => []
  | (key, value) :: later =>
      Obstacle.ofKey key ++ obstacles value ++
        obstaclesOfEntries later

end

end Value

end TextTemplate
