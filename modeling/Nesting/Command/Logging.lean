import Nesting.Command.World
import Nesting.Diagnostic
import Nesting.Scanner

/-!
# The log

Every command knows how much is logged, and what a line of the log begins with: the place in the
program, the time of day, both, or the date and the time of day.
-/

namespace Nesting

/-- What the flags of the program say. -/
structure Logging where
  debug : Bool := false
  quiet : Bool := false
  verbose : Bool := false
  showVersion : Bool := false
  withDefaults : Bool := false
  withPlace : Bool := true
  withTime : Bool := false

namespace Logging

/-- What the flags given say. -/
def ofArguments (a : Arguments) : Logging where
  debug := a.isOn "debug" false
  quiet := a.isOn "quiet" false
  verbose := a.isOn "verbose" false
  showVersion := a.isOn "show-version" false
  withDefaults := a.isOn "log-with-default-flags" false
  withPlace := a.isOn "log-with-shortfile" true
  withTime := a.isOn "log-with-timestamp" false

/-- What a line of the log begins with. -/
def lineHead (l : Logging) (clock : Clock) (place : String) : String :=
  if l.withDefaults || !(l.withPlace || l.withTime) then clock.date ++ " " ++ clock.time ++ " "
  else (if l.withTime then clock.time ++ " " else "") ++ if l.withPlace then place ++ ": " else ""

/-- The least severity of records that are logged. -/
def threshold (l : Logging) : Severity :=
  if l.debug then .debug else if l.quiet then .warning else .info

/-- A log record as a line. -/
def recordLine (clock : Clock) (r : LogRecord) : String :=
  "time=" ++ clock.stamp ++ " level=" ++ r.severity.name ++ " msg=" ++ quoted r.message ++ "\n"

/-- The lines of those records that are severe enough. -/
def recordLines (l : Logging) (clock : Clock) (records : List LogRecord) : String :=
  String.join
    ((records.filter fun r => l.threshold.level ≤ r.severity.level).map (recordLine clock))

/-- The line that says how a check went. -/
def checkLine (l : Logging) (clock : Clock) (path : String) (outcome : Outcome) : String :=
  l.lineHead clock "main.go:142" ++ path ++ ": " ++ outcome.name ++ " in " ++ clock.elapsed ++ "\n"

/-- The line that says what has been written to a file. -/
def writtenLine (l : Logging) (clock : Clock) (path : String) (size : Nat) : String :=
  l.lineHead clock "main.go:184" ++ path ++ ": wrote " ++ toString size ++ " bytes\n"

end Logging

end Nesting
