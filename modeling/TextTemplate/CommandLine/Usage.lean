import TextTemplate.CommandLine.Flag

/-
  The usage and the help text of the command line.

  Key definitions include:
    * `Usage.lines`
    * `Usage.help`
    * `Usage.complaint`
-/

------------------------------------------------------------
-- Texts
------------------------------------------------------------

namespace TextTemplate

namespace Usage

/- The name under which the program runs. -/
def programName : String :=
  "fieldscan"

/- The lines that tell how the program is called. -/
def lines : List String :=
  ["usage: fieldscan [-h] [-v] [--logfile LOGFILE] " ++
      "[--max-steps MAX_STEPS]",
    "                 template inputs [inputs ...]"]

/- The lines of the help text. -/
def help : List String :=
  lines ++
    ["",
      "Extract named fields from strings.",
      "",
      "positional arguments:",
      "  template              template such as " ++
        "\"\x7ba:i\x7d-\x7bb:i\x7d\"",
      "  inputs                strings to match",
      "",
      "options:",
      "  -h, --help            show this help message " ++
        "and exit",
      "  -v, --verbose         increase verbosity",
      "  --logfile LOGFILE     write log to file",
      "  --max-steps MAX_STEPS",
      "                        give up after this many " ++
        "candidate trials"]

/- The lines shown for arguments that cannot be used. -/
def complaint
    (error : UsageError) : List String :=
  lines ++ [programName ++ ": error: " ++ error.message]

end Usage

end TextTemplate
