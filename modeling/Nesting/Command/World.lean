import Nesting.Command.Interface
import Nesting.Config.File
import Nesting.Encoding
import Nesting.Sink

/-!
# What a command acts on

A command sees files, environment variables and the clock, writes to its output, which may stop
taking pieces, and to a log. It also relies on two things that are not up to it: a reading of some
encodings, and an order in which tables are gone through. All of that is its world. A command is a
computation on it that may end early; what it has done to the world by then stays done.
-/

namespace Nesting

/-- What the clock shows while a command runs. -/
structure Clock where
  /-- The date, as a log line begins with it. -/
  date : String
  /-- The time of day, as a log line begins with it. -/
  time : String
  /-- The moment of a log record. -/
  stamp : String
  /-- The time since the command was started. -/
  elapsed : String

/-- All that a command can see and change. -/
structure World where
  files : FileTree
  /-- The environment variables by name. -/
  environment : List (String × String)
  clock : Clock
  /-- How the encodings with more than one byte a character are read. -/
  decoders : Decoders := .ascii
  /-- How the fields of tables are gone through. -/
  order : FieldOrder := .listed
  out : Sink := {}
  /-- What is logged, the error of the command included. -/
  log : String := ""

/-- Why a command fails. -/
inductive CommandError where
  /-- There is no such command. -/
  | unknown (typed : String) (suggestions : List String)
  | flag (error : FlagError)
  /-- Another number of arguments than the command takes. -/
  | operands (expected received : Nat)
  | config (error : ConfigError)
  | setting (error : SettingError)
  | failure (failure : Failure)
  | fault (fault : Fault)

namespace CommandError

/-- The wording of a command's error. -/
def message : CommandError → String
  | unknown typed suggestions =>
    "unknown command " ++ quoted typed ++ " for " ++ quoted Command.program
      ++ if suggestions.isEmpty then ""
        else "\n\nDid you mean this?\n" ++ String.join (suggestions.map fun s => "\t" ++ s ++ "\n")
  | flag error => error.message
  | operands expected received =>
    "accepts " ++ toString expected ++ " arg(s), received " ++ toString received
  | config error => error.message
  | setting error => error.message
  | failure f => f.message
  | fault f => f.message

/-- The code of a command's error. -/
def code : CommandError → Code
  | failure f => f.code
  | _ => .unknown

end CommandError

/-- A computation of a command. -/
abbrev Act := EStateM CommandError World

namespace World

/-- The world after a text is logged. -/
def note (w : World) (text : String) : World :=
  { w with log := w.log ++ text }

/-- The world after pieces are handed to the output, one after the other; refusals do not count. -/
def offer (w : World) (pieces : List String) : World :=
  { w with out := pieces.foldl (fun s piece => ((Writing.write piece).runOn s).2) w.out }

end World

namespace Act

/-- Logs a text. -/
def note (text : String) : Act Unit :=
  modify (·.note text)

/-- Hands pieces to the output; refusals do not count. -/
def offer (pieces : List String) : Act Unit :=
  modify (·.offer pieces)

/-- Writes to the output; a refusal ends the command. -/
def write (w : Writing Unit) : Act Unit := fun world =>
  match w.runOn world.out with
  | (none, s) => .ok () { world with out := s }
  | (some e, s) => .error (.fault e) { world with out := s }

/-- Goes on with a result, or ends with its error. -/
def require {ε α : Type} (error : ε → CommandError) : Except ε α → Act α
  | .ok a => pure a
  | .error e => throw (error e)

/-- The error that a command ends with, if any, and the world after it. -/
def runOn {α : Type} (act : Act α) (world : World) : Option CommandError × World :=
  match act.run world with
  | .ok _ world => (none, world)
  | .error e world => (some e, world)

end Act

end Nesting
