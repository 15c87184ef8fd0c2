import TextTemplate.Text.Digit
import TextTemplate.Text.Quoted

/-
  The options of the command line and their spellings.

  A long spelling may be shortened as long as it stays
  clear which option is meant, and a value may follow its
  option after an equals sign.  Short spellings may be
  written together after one hyphen.

  Key definitions include:
    * `Flag`
    * `Spelling`
    * `Argument`
    * `Argument.read`
    * `Argument.readAll`
-/

------------------------------------------------------------
-- Options
------------------------------------------------------------

namespace TextTemplate

/- An option. -/
inductive Flag where
  | help
  | verbose
  | logFile
  | maxSteps
  deriving DecidableEq

namespace Flag

/- Whether an option has a value. -/
def takesValue : Flag → Bool
  | .help => false
  | .verbose => false
  | .logFile => true
  | .maxSteps => true

/- The name of an option in messages. -/
def title : Flag → String
  | .help => "-h/--help"
  | .verbose => "-v/--verbose"
  | .logFile => "--logfile"
  | .maxSteps => "--max-steps"

end Flag

/- A way to write an option. -/
structure Spelling where
  text : String
  flag : Flag
  deriving DecidableEq

namespace Spelling

/- All spellings. -/
def all : List Spelling :=
  [⟨"-h", .help⟩, ⟨"--help", .help⟩, ⟨"-v", .verbose⟩,
    ⟨"--verbose", .verbose⟩, ⟨"--logfile", .logFile⟩,
    ⟨"--max-steps", .maxSteps⟩]

/- The spelling that a text is. -/
def ofText?
    (text : String) : Option Spelling :=
  all.find? fun spelling => spelling.text = text

/- Whether a spelling begins with a single hyphen. -/
def isShort
    (spelling : Spelling) : Bool :=
  spelling.text.toList[1]? != some '-'

end Spelling

end TextTemplate

------------------------------------------------------------
-- Usage Errors
------------------------------------------------------------

namespace TextTemplate

/- Why a list of arguments cannot be used. -/
inductive UsageError where
  | ambiguous (text : String) (choices : List String)
  | ignoredValue (flag : Flag) (value : String)
  | missingValue (flag : Flag)
  | badNumber (flag : Flag) (raw : String)
  | missingArguments (names : List String)
  | unrecognized (texts : List String)
  deriving DecidableEq

namespace UsageError

/- The wording that is about one option. -/
def about
    (flag : Flag)
    (problem : String) : String :=
  "argument " ++ flag.title ++ ": " ++ problem

/- The wording for arguments that cannot be used. -/
def message : UsageError → String
  | .ambiguous text choices =>
      "ambiguous option: " ++ text ++ " could match " ++
        String.intercalate ", " choices
  | .ignoredValue flag value =>
      about flag ("ignored explicit argument " ++
        Quoted.text value)
  | .missingValue flag =>
      about flag "expected one argument"
  | .badNumber flag raw =>
      about flag ("invalid int value: " ++
        Quoted.text raw)
  | .missingArguments names =>
      "the following arguments are required: " ++
        String.intercalate ", " names
  | .unrecognized texts =>
      "unrecognized arguments: " ++
        String.intercalate " " texts

end UsageError

end TextTemplate

------------------------------------------------------------
-- Arguments
------------------------------------------------------------

namespace TextTemplate

/-
  What an argument looks like: a plain text, the divider
  after which all arguments are plain, an option with or
  without a value of its own, or an option that there is
  not.
-/
inductive Argument where
  | plain (text : String)
  | divider
  | option (spelling : Spelling) (value : Option String)
  | unknown (text : String)
  deriving DecidableEq

namespace Argument

/- The text of the divider. -/
def dividerText : String :=
  "--"

/- Cut a text at its first equals sign, if it has one. -/
def splitValue
    (text : List Char) : String × Option String :=
  match text.dropWhile (· != '=') with
  | [] => (String.ofList text, none)
  | _ :: value =>
      (String.ofList (text.takeWhile (· != '=')),
        some (String.ofList value))

/- Whether characters are decimal digits, at least one. -/
def areDigits
    (chars : List Char) : Bool :=
  !chars.isEmpty && chars.all Digit.isDigit

/-
  Whether a text is a negative number: a hyphen and digits,
  with at most one point before the last digit.  A line end
  may follow.
-/
def isNegativeNumber : List Char → Bool
  | '-' :: rest =>
      let body :=
        if rest.getLast? = some '\n' then
          rest.dropLast
        else
          rest
      areDigits body ||
        match body.dropWhile Digit.isDigit with
        | '.' :: fraction => areDigits fraction
        | _ => false
  | _ => false

/- What a hyphenated text is that is no known option. -/
def readUnknown
    (text : String) : Argument :=
  if isNegativeNumber text.toList ||
      text.toList.contains ' ' then
    .plain text
  else
    .unknown text

/- What a text is that begins with two hyphens. -/
def readLong
    (text : String) : Except UsageError Argument :=
  let (name, value) := splitValue text.toList
  let choices := Spelling.all.filter fun spelling =>
    name.toList.isPrefixOf spelling.text.toList
  match choices with
  | [] => .ok (readUnknown text)
  | [spelling] => .ok (.option spelling value)
  | choices =>
      .error (.ambiguous text (choices.map Spelling.text))

/- What a text is that begins with a single hyphen. -/
def readShort
    (text : String) : Argument :=
  let name := String.ofList (text.toList.take 2)
  match Spelling.ofText? name with
  | some spelling =>
      .option spelling
        (some (String.ofList (text.toList.drop 2)))
  | none => readUnknown text

/- What a hyphenated text is that is no spelling itself. -/
def readHyphenated
    (text : String) : Except UsageError Argument :=
  let (name, value) := splitValue text.toList
  match value, Spelling.ofText? name with
  | some value, some spelling =>
      .ok (.option spelling (some value))
  | _, _ =>
      if text.toList[1]? = some '-' then
        readLong text
      else
        .ok (readShort text)

/- What an argument before the divider is. -/
def read
    (text : String) : Except UsageError Argument :=
  if text.toList.head? != some '-' || text = "-" then
    .ok (.plain text)
  else
    match Spelling.ofText? text with
    | some spelling => .ok (.option spelling none)
    | none => readHyphenated text

/- What each argument of a list is. -/
def readAll :
    List String → Except UsageError (List Argument)
  | [] => .ok []
  | text :: later =>
      if text = dividerText then
        .ok (.divider :: later.map .plain)
      else do
        let first ← read text
        let rest ← readAll later
        return first :: rest

/- An argument as it was written, where no option. -/
def text : Argument → String
  | .plain text => text
  | .divider => dividerText
  | .option spelling _ => spelling.text
  | .unknown text => text

/- Whether an argument is a plain text. -/
def isPlain : Argument → Bool
  | .plain _ => true
  | _ => false

end Argument

end TextTemplate
