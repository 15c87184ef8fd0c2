import TextTemplate.Value.Basic

/-
  Values written as JSON, on one line of ASCII.

  A text is written by its UTF-16 units, those outside
  printable ASCII in hexadecimal.  Bytes and objects are
  written as the string of their quoted form, a custom value
  as its written form, and a key that is no text as a string
  that names it.

  Key definitions include:
    * `Json.string`
    * `Key.name`
    * `Value.json`
-/

------------------------------------------------------------
-- Strings
------------------------------------------------------------

namespace TextTemplate

namespace Json

/- A UTF-16 unit as it stands in a string. -/
def escape
    (code : Nat) : List Char :=
  if code = 0x22 then
    ['\\', '"']
  else if code = 0x5C then
    ['\\', '\\']
  else if code = 0x0A then
    ['\\', 'n']
  else if code = 0x0D then
    ['\\', 'r']
  else if code = 0x09 then
    ['\\', 't']
  else if code = 0x0C then
    ['\\', 'f']
  else if code = 0x08 then
    ['\\', 'b']
  else if 0x20 ≤ code && code ≤ 0x7E then
    [Char.ofNat code]
  else
    Quoted.hexUnit code

/- A text as a string. -/
def string
    (text : LooseText) : List Char :=
  '"' :: text.units.flatMap escape ++ ['"']

/- Parts with a comma and a space between each two. -/
def separated : List (List Char) → List Char
  | [] => []
  | [part] => part
  | part :: later => part ++ ',' :: ' ' :: separated later

end Json

end TextTemplate

------------------------------------------------------------
-- Values
------------------------------------------------------------

namespace TextTemplate

/- The text that a key is written as. -/
def Key.name : Key → LooseText
  | .null => "null"
  | .bool true => "true"
  | .bool false => "false"
  | .number value => toString value
  | .float value => String.ofList value.json
  | .text value => value
  | .bytes value => Quoted.bytes value
  | .object _ quoted => quoted

namespace Value

mutual

/- The characters of a value in JSON. -/
def jsonChars : Value → List Char
  | .null => "null".toList
  | .bool true => "true".toList
  | .bool false => "false".toList
  | .number value => (toString value).toList
  | .count value => (toString value).toList
  | .float value => value.json
  | .text value => Json.string value
  | .bytes value => Json.string (Quoted.bytes value)
  | .object quoted => Json.string quoted
  | .list items =>
      '[' :: Json.separated (jsonItems items) ++ [']']
  | .tuple items =>
      '[' :: Json.separated (jsonItems items) ++ [']']
  | .record entries =>
      '\x7b' :: Json.separated (jsonEntries entries) ++
        ['\x7d']
  | .custom form => jsonChars form

/- The items of a list in JSON. -/
def jsonItems : List Value → List (List Char)
  | [] => []
  | item :: later => jsonChars item :: jsonItems later

/- The entries of a record in JSON. -/
def jsonEntries : List (Key × Value) → List (List Char)
  | [] => []
  | (key, value) :: later =>
      (Json.string key.name ++
          ':' :: ' ' :: jsonChars value) ::
        jsonEntries later

end

/- A value in JSON, if nothing stands in the way of it. -/
def json
    (value : Value) : String :=
  String.ofList value.jsonChars

end Value

end TextTemplate
