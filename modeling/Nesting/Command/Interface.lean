import Nesting.Command.Flag
import Nesting.Config

/-!
# The commands

The program is one command with others below it. Each of them has a line of usage, a summary, and
flags of its own; the flags of the program itself hold for all of them.
-/

namespace Nesting

/-- A command of the program. -/
inductive Command where
  /-- The program itself. -/
  | root
  | check
  | sanitize
  | version
  | help
  /-- Scripts for a shell, which are not made here. -/
  | completion
  deriving DecidableEq

namespace Command

/-- The name of the program. -/
def program : String := "brackets"

/-- The commands below the program, in the order of their names. -/
def all : List Command :=
  [check, completion, help, sanitize, version]

/-- The name of a command. -/
def name : Command → String
  | root => program
  | check => "check"
  | sanitize => "sanitize"
  | version => "version"
  | help => "help"
  | completion => "completion"

/-- The command with the given name. -/
def ofName? (s : String) : Option Command :=
  all.find? fun c => c.name = s

/-- A command with all that leads to it. -/
def path : Command → String
  | root => program
  | c => program ++ " " ++ c.name

/-- What a command takes besides flags. -/
def operands : Command → String
  | check | sanitize => " <source-file>"
  | help => " [command]"
  | _ => ""

/-- What a command does, in one line. -/
def summary : Command → String
  | root => "Bracket balance checker"
  | check => "check the delimiters in a source file"
  | sanitize => "print a source file with comments and literals removed"
  | version => "display the application's version number"
  | help => "Help about any command"
  | completion => "Generate the autocompletion script for the specified shell"

/-- What a command does, in the words that its help begins with. -/
def description : Command → String
  | root =>
    "Check that the (), \x7b\x7d and [] delimiters in a source file are closed and nested."
  | help =>
    "Help provides help for any command in the application.\n" ++
      "Simply type brackets help [path to command] for full details."
  | c => c.summary

/-- Whether a command does something itself. -/
def isRunnable : Command → Bool
  | root | completion => false
  | _ => true

/-- Whether a failing command leaves out its usage. -/
def hidesUsage : Command → Bool
  | check | sanitize => true
  | _ => false

/-- How many arguments a command takes, if it minds. -/
def operandCount? : Command → Option Nat
  | check | sanitize => some 1
  | _ => none

/-! ## Flags -/

/-- The flags of the program, which every command has. -/
def commonFlags : List Flag :=
  [{ name := "debug", summary := "log debugging information" },
    { name := "log-with-default-flags", summary := "log with default flags" },
    { name := "log-with-shortfile", default := .truth true, summary := "log with short file name" },
    { name := "log-with-timestamp", summary := "log with timestamp" },
    { name := "quiet", summary := "log less information" },
    { name := "show-version", summary := "show version" },
    { name := "verbose", summary := "log more information" }]

/-- The text encoding that holds when none is named. -/
def defaultEncoding : String := "utf-8"

/-- The flags of a command alone. -/
def ownFlags : Command → List Flag
  | check =>
    [{ name := "config-file", letter := some 'c', type := .text, default := .text "",
       summary := "load configuration from file" },
      { name := "context", type := .integer, default := .integer ({} : Options).contextRadius,
        summary := "characters of context shown on each side of an error" },
      { name := "encoding", type := .text, default := .text defaultEncoding,
        summary := "text encoding of the input file" },
      { name := "exit-code",
        summary := "exit with a non-zero status on an unmatched or mismatched delimiter" },
      { name := "format", type := .text, default := .text textFormat,
        summary := "output format (text, diagnostic)" },
      { name := "preserve-lines",
        summary := "keep the newlines of block comments so line numbers match the file" },
      { name := "stack-tail", type := .integer, default := .integer ({} : Options).stackTail,
        summary := "number of unclosed delimiters shown after a clean scan" }]
  | sanitize =>
    [{ name := "encoding", type := .text, default := .text defaultEncoding,
       summary := "text encoding of the input file" },
      { name := "output", letter := some 'o', type := .text, default := .text "",
        summary := "save sanitized text to file" },
      { name := "preserve-lines", summary := "keep the newlines of block comments" }]
  | version => [{ name := "build-info", summary := "show build information" }]
  | _ => []

/-- The flag that asks for help. -/
def helpFlag (c : Command) : Flag where
  name := "help"
  letter := some 'h'
  summary := "help for " ++ c.name

/-- The flags that hold for a command. -/
def flags (c : Command) : List Flag :=
  c.helpFlag :: c.ownFlags ++ commonFlags

end Command

/-- The flag of a check that sets a key. -/
def Key.flagName : Key → String
  | contextRadius => "context"
  | stackTail => "stack-tail"
  | encoding => "encoding"
  | preserveLines => "preserve-lines"
  | format => "format"
  | exitCode => "exit-code"

end Nesting
