import TextTemplate.Value.Basic

/-
  Values as they are shown to people.

  A text is shown as it is, and quoted inside another value.

  Key definitions include:
    * `Value.describe`
    * `Value.display`
-/

------------------------------------------------------------
-- Shown Values
------------------------------------------------------------

namespace TextTemplate

namespace Key

/- A key with a text quoted. -/
def describe : Key → String
  | .null => "None"
  | .bool true => "True"
  | .bool false => "False"
  | .number value => toString value
  | .float value => value.display
  | .text value => value.quoted
  | .bytes value => Quoted.bytes value
  | .object _ quoted => quoted.shown

/- A key as it is shown on a line. -/
def display : Key → String
  | .text value => value.shown
  | key => key.describe

end Key

namespace Value

/- The items of a tuple between parentheses. -/
def parenthesized : List String → String
  | [item] => "(" ++ item ++ ",)"
  | items => "(" ++ String.intercalate ", " items ++ ")"

mutual

/- A value with its texts quoted. -/
def describe : Value → String
  | .null => "None"
  | .bool true => "True"
  | .bool false => "False"
  | .number value => toString value
  | .count value => toString value
  | .float value => value.display
  | .text value => value.quoted
  | .bytes value => Quoted.bytes value
  | .object quoted => quoted.shown
  | .list items =>
      "[" ++ String.intercalate ", " (describeItems items)
        ++ "]"
  | .tuple items => parenthesized (describeItems items)
  | .record entries =>
      "\x7b" ++
        String.intercalate ", " (describeEntries entries) ++
        "\x7d"
  | .custom form => describe form

/- The items of a list, each with its texts quoted. -/
def describeItems : List Value → List String
  | [] => []
  | item :: later => describe item :: describeItems later

/- The entries of a record, with all texts quoted. -/
def describeEntries :
    List (Key × Value) → List String
  | [] => []
  | (key, value) :: later =>
      (key.describe ++ ": " ++ describe value) ::
        describeEntries later

end

/- A value as it is shown on a line. -/
def display : Value → String
  | .text value => value.shown
  | value => value.describe

end Value

end TextTemplate
