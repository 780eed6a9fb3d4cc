import Nesting.Diagnostic
import Nesting.Failure
import Nesting.Options
import Nesting.Scan

/-!
# Reports

A report is the result of one scan. It has four views: the plain lines (`write`), the failure
(`failure?`), the diagnostics (`diagnostics?`), and the diagnostics printed with the lines that they
point into (`writeDiagnostics`). The fields of a report can be set freely, so each view has to say
what it does when an entry that the outcome asks for is missing: it ends with
`Fault.missingEntry`. `Report.ofHalt` builds the report of a scan, which always has the entries.
-/

namespace Nesting

/-- How a scan came out. -/
inductive Outcome where
  /-- Every closer matched; openers may be left. -/
  | balanced
  /-- A closer came when nothing was open. -/
  | unmatched
  /-- A closer did not match the innermost opener. -/
  | mismatched
  /-- A number that no outcome has. -/
  | other (number : Int)
  deriving DecidableEq

namespace Outcome

/-- The outcome with the given number. -/
def ofNumber (n : Int) : Outcome :=
  if n = 0 then balanced
  else if n = 1 then unmatched
  else if n = 2 then mismatched
  else other n

/-- The name of an outcome. -/
def name : Outcome → String
  | balanced => "Balanced"
  | unmatched => "Unmatched"
  | mismatched => "Mismatched"
  | other n => "Outcome(" ++ toString n ++ ")"

end Outcome

/-- The result of one scan. -/
structure Report where
  /-- The name of the source. -/
  name : String
  outcome : Outcome
  /-- The opener that a mismatched closer met. -/
  opener : Option Entry := none
  /-- The delimiter that stopped the scan. -/
  closer : Option Entry := none
  /-- The text around the closer. -/
  context : String := ""
  /-- How many openers were left. -/
  depth : Int := 0
  /-- The last of those, the innermost last. -/
  top : List Entry := []
  deriving DecidableEq

/-! ## The report of a scan -/

/-- A text on one line: each line feed is shown as a backslash and an `n`. -/
def onOneLine (t : Text) : Text :=
  t.flatMap fun c => if c = '\n' then ['\\', 'n'] else [c]

/-- The characters of a text around an offset, `radius` before it and `radius` from it on, as far as
the text goes. The end of the window is a wrapping sum; where it wraps the window is empty. -/
def window (t : Text) (radius offset : Nat) : Text :=
  let start := max 0 ((offset : Int) - radius)
  let stop := min (t.length : Int) (Word.wrap (offset + radius))
  (t.take stop.toNat).drop start.toNat

namespace Report

/-- The report of a scan of `t` that halted. -/
def ofHalt (name : String) (options : Options) (t : Text) (halt : Scan.Halt) : Report :=
  let stack := halt.state.stack
  let report : Report :=
    { name
      outcome := .balanced
      depth := stack.length
      top := ((stack.take options.stackTail).reverse).map Mark.entry }
  let context (m : Mark) := String.ofList (onOneLine (window t options.contextRadius m.offset))
  match halt.verdict with
  | .balanced => report
  | .unmatched closer =>
    { report with outcome := .unmatched, closer := some closer.entry, context := context closer }
  | .mismatched opener closer =>
    { report with
      outcome := .mismatched
      opener := some opener.entry
      closer := some closer.entry
      context := context closer }

/-- The report of a scan of a text. -/
def ofText (name : String) (options : Options) (t : Text) : Report :=
  ofHalt name options t (Scan.scan t)

/-- Whether the scan reached the end of the text. Openers that are left do not count against it. -/
def ok (r : Report) : Bool :=
  r.outcome = .balanced

/-! ## Plain lines -/

/-- Writes the report as plain lines. -/
def write (r : Report) : Writing Unit :=
  match r.outcome with
  | .unmatched => do
    let closer ← Writing.need r.closer
    Writing.write ("Unmatched closing " ++ closer.describe ++ " context: " ++ r.context ++ "\n")
  | .mismatched => do
    let opener ← Writing.need r.opener
    let closer ← Writing.need r.closer
    Writing.write ("Mismatched " ++ opener.describe ++ " with " ++ closer.describe
      ++ " context: " ++ r.context ++ "\n")
  | _ => do
    Writing.write ("OK, stack size " ++ toString r.depth ++ "\n")
    if r.top ≠ [] then
      Writing.write ("Top of stack " ++ ", ".intercalate (r.top.map Entry.describe) ++ "\n")

/-! ## The failure -/

/-- The failure that the report stands for, if its outcome is one. -/
def failure? (r : Report) : Except Fault (Option Failure) :=
  match r.outcome, r.opener, r.closer with
  | .unmatched, _, some closer => .ok (some (.unmatched r.name closer))
  | .mismatched, some opener, some closer => .ok (some (.mismatched r.name opener closer))
  | .unmatched, _, _ | .mismatched, _, _ => .error .missingEntry
  | _, _, _ => .ok none

/-! ## Diagnostics -/

/-- The warning about an opener that is left. -/
def unclosed (e : Entry) : Diagnostic where
  severity := .warning
  message := "unclosed " ++ quotedChar e.glyph
  span := e.span

/-- How many openers are left beyond those listed. -/
def hidden (r : Report) : Int :=
  Word.wrap (r.depth - r.top.length)

/-- The diagnostics of the report: one error, or one warning for each opener listed, the first with
a note on those that are not. -/
def diagnostics? (r : Report) : Except Fault (List Diagnostic) :=
  match r.outcome, r.opener, r.closer with
  | .unmatched, _, some closer =>
    .ok [{ severity := .error
           message := "unmatched closing " ++ quotedChar closer.glyph
           span := closer.span }]
  | .mismatched, some opener, some closer =>
    .ok [{ severity := .error
           message := "mismatched " ++ quotedChar closer.glyph ++ ": expected "
             ++ quotedChar opener.delimiter.closer.glyph
           span := closer.span
           notes := [quotedChar opener.glyph ++ " opened at " ++ opener.coordinates] }]
  | .unmatched, _, _ | .mismatched, _, _ => .error .missingEntry
  | _, _, _ =>
    match r.top.map unclosed with
    | [] => .ok []
    | first :: rest =>
      if 0 < r.hidden then
        .ok ({ first with
               notes := [toString r.hidden ++ " more unclosed delimiters not shown"] } :: rest)
      else .ok (first :: rest)

/-- Prints every diagnostic of the report; `source` is the text that was scanned. Without any, one
line says whether openers are left. -/
def writeDiagnostics (r : Report) (source : Text) : Writing Unit :=
  match r.diagnostics? with
  | .error fault => throw fault
  | .ok [] =>
    if r.depth ≠ 0 then
      Writing.write (r.name ++ ": " ++ toString r.depth ++ " unclosed delimiters\n")
    else Writing.write (r.name ++ ": ok\n")
  | .ok diagnostics => Writing.each (fun d => d.print r.name source) diagnostics

end Report

end Nesting
