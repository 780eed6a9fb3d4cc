import Nesting.Command.Actions

/-!
# The command line

A run selects a command, reads its flags, and does what it is for. Asking for help comes before the
number of arguments is looked at, and so does a command that does nothing by itself; an error in a
flag comes before both. A run that fails says why in the log.
-/

namespace Nesting.Command

/-- Checks the number of arguments. -/
def requireOperands (c : Command) (a : Arguments) : Act Unit :=
  match c.operandCount? with
  | some n =>
    if a.positional.length = n then pure () else throw (.operands n a.positional.length)
  | none => pure ()

/-- Does what a command is for. -/
def act (c : Command) (a : Arguments) : Act Unit :=
  match c with
  | check => (CheckRequest.ofArguments a).act
  | sanitize => (SanitizeRequest.ofArguments a).act
  | version => showVersion a
  | help => showHelp a.positional
  | root | completion => pure ()

/-- Runs a command on its arguments. -/
def execute (c : Command) (arguments : List String) : Act Unit := do
  let a ← Act.require .flag (Arguments.parse c.flags arguments)
  if a.isOn "help" false || !c.isRunnable then Act.offer c.helpPieces
  else
    c.requireOperands a
    if (Logging.ofArguments a).showVersion then Act.offer [versionLine]
    c.act a

/-- The line in the log that says why a run fails. -/
def errorLine (e : CommandError) : String :=
  "Error: " ++ e.message ++ "\n"

/-- Runs the program on its arguments. -/
def run (arguments : List String) (w : World) : Option CommandError × World :=
  match select arguments with
  | .unknown typed =>
    let e := CommandError.unknown typed (suggestions typed)
    (some e, w.note (errorLine e ++ "Run '" ++ program ++ " --help' for usage.\n"))
  | .command c arguments =>
    match (c.execute arguments).runOn w with
    | (none, w) => (none, w)
    | (some e, w) =>
      let w := w.note (errorLine e)
      (some e, if c.hidesUsage then w else w.offer [c.usage ++ "\n"])

/-- The status that a run ends with: 1 if it fails, and 0 otherwise. -/
def exitStatus (error : Option CommandError) : UInt32 :=
  if error.isSome then 1 else 0

end Nesting.Command
