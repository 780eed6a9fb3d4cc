import Nesting.Report

/-!
# Scanners

A scanner scans its text once. The first `scan` builds the report, keeps it and logs one record;
each later one hands out the same report, with whatever its holders have changed in it meanwhile.
`Step` lists what a holder can do with a scanner, and `Scanner.step` does it; a step that needs a
report before there is one fails and changes nothing.
-/

namespace Nesting

/-- A message for the log. -/
structure LogRecord where
  severity : Severity
  message : String
  deriving DecidableEq

/-- A scanner of one text. -/
structure Scanner where
  /-- The name of the source. -/
  name : String
  text : Text
  options : Options
  /-- Where the scan has come to. The stack is empty before the scan and after it. -/
  state : Scan.State := {}
  /-- The report, once there is one. -/
  report : Option Report := none
  /-- The records logged so far, the oldest first. -/
  log : List LogRecord := []

namespace Scanner

/-- A scanner for a text, unless a setting is refused. -/
def ofSettings (name : String) (t : Text) (settings : List Setting) :
    Except SettingError Scanner :=
  match Options.ofSettings settings with
  | .ok options => .ok { name, text := t, options }
  | .error e => .error e

/-- What the log says of the end of a scan: the verdict, after the place that the scan had come
to. -/
def logRecord (name : String) (halt : Scan.Halt) : LogRecord where
  severity := .debug
  message :=
    name ++ ":" ++ toString halt.state.line ++ ":" ++ toString halt.state.column ++ ": "
      ++ match halt.verdict with
        | .balanced => "end of input with " ++ toString halt.state.stack.length ++ " open"
        | .unmatched closer => "unmatched closing " ++ closer.char.toString
        | .mismatched opener closer =>
          opener.char.toString ++ " at " ++ toString opener.line ++ ":" ++ toString opener.column
            ++ " closed by " ++ closer.char.toString

/-- Scans the text, the first time; hands out the report that there is from then on. -/
def scan (s : Scanner) : Report × Scanner :=
  match s.report with
  | some report => (report, s)
  | none =>
    let halt := Scan.run s.state s.text
    let report := Report.ofHalt s.name s.options s.text halt
    (report,
      { s with
        state := { halt.state with stack := [] }
        report := some report
        log := s.log ++ [logRecord s.name halt] })

end Scanner

/-! ## A scanner in use -/

/-- What can be done with a scanner and its report. -/
inductive Step where
  /-- Ask for the report. -/
  | scan
  /-- Render the report as plain lines. -/
  | write
  /-- Render the diagnostics of the report. -/
  | diagnostics
  /-- Ask for the failure that the report stands for. -/
  | failure
  /-- Forget the openers listed in the report. -/
  | dropTop
  /-- Forget the closer of the report. -/
  | unclose
  deriving DecidableEq

/-- What a step answers. -/
inductive StepAnswer where
  /-- A report; `same` says whether it was there before the step. -/
  | scanned (same : Bool) (outcome : Outcome) (depth : Int) (logged : Nat)
  | rendered (text : String)
  | failure (failure : Option Failure)
  | dropped (depth : Int)
  | unclosed (outcome : Outcome)
  | fault (fault : Fault)
  deriving DecidableEq

/-- The answer with a rendering, or with the fault that ended it. -/
def StepAnswer.ofText : Except Fault String → StepAnswer
  | .ok text => .rendered text
  | .error e => .fault e

namespace Scanner

/-- Does one step. -/
def step (s : Scanner) (action : Step) : StepAnswer × Scanner :=
  match action, s.report with
  | .scan, _ =>
    let (report, next) := s.scan
    (.scanned s.report.isSome report.outcome report.depth next.log.length, next)
  | _, none => (.fault .missingEntry, s)
  | .write, some report => (.ofText report.write.text, s)
  | .diagnostics, some report => (.ofText (report.writeDiagnostics s.text).text, s)
  | .failure, some report =>
    match report.failure? with
    | .ok failure => (.failure failure, s)
    | .error fault => (.fault fault, s)
  | .dropTop, some report =>
    (.dropped report.depth, { s with report := some { report with top := [] } })
  | .unclose, some report =>
    (.unclosed report.outcome, { s with report := some { report with closer := none } })

/-- Does steps one after the other. -/
def steps (s : Scanner) : List Step → List StepAnswer × Scanner
  | [] => ([], s)
  | action :: rest =>
    let (answer, next) := s.step action
    let (answers, last) := next.steps rest
    (answer :: answers, last)

end Scanner

end Nesting
