import Nesting.Check
import Nesting.Command.Logging
import Nesting.Command.Selection
import Nesting.Command.Usage
import Nesting.Source
import Nesting.Version

/-!
# What the commands do

Each command acts on what its flags and arguments ask for. A check reads its configuration, then the
source, and only then writes anything; what it writes does not depend on what it logs. Sanitizing
reads the whole source before it touches the file that it writes, which may be the same one; if the
writing fails, what it has done to that file by then stays done.
-/

namespace Nesting

/-- The line mode that a switch stands for. -/
def LineMode.ofSwitch (preserve : Bool) : LineMode :=
  if preserve then .keep else .drop

/-! ## Checking -/

/-- What a check is asked for. -/
structure CheckRequest where
  /-- The source file. -/
  path : String
  /-- The configuration file; none is named by no text. -/
  configFile : String := ""
  /-- The settings that are given as flags. -/
  flags : Key → Option Value := fun _ => none
  logging : Logging := {}

namespace CheckRequest

/-- What the arguments of a check ask for. -/
def ofArguments (a : Arguments) : CheckRequest where
  path := a.positional.headD ""
  configFile := a.text "config-file" ""
  flags := fun k => a.value? k.flagName
  logging := Logging.ofArguments a

/-- The configuration of a check. -/
def config (r : CheckRequest) (w : World) : Except ConfigError Config :=
  Config.load w.order w.files r.configFile w.environment [] r.flags

/-- The rendering of a report in the format that is asked for. -/
def rendering (c : Config) (sanitized : Text) (report : Report) : Writing Unit :=
  if c.format = diagnosticFormat then report.writeDiagnostics sanitized else report.write

/-- Checks a source file. -/
def act (r : CheckRequest) : Act Unit := do
  let world ← get
  let config ← Act.require .config (r.config world)
  let text ← Act.require .failure (readSource world.decoders world.files r.path config.encoding)
  let mode := LineMode.ofSwitch config.preserveLines
  let scanner ← Act.require .setting (checker r.path mode text config.settings)
  let (report, after) := scanner.scan
  Act.note (r.logging.recordLines world.clock after.log)
  Act.write (rendering config scanner.text report)
  if r.logging.verbose && !r.logging.quiet then
    Act.note (r.logging.checkLine world.clock r.path report.outcome)
  if config.exitCode then
    match ← Act.require .fault report.failure? with
    | some failure => throw (.failure failure)
    | none => pure ()

end CheckRequest

/-! ## Sanitizing -/

/-- What sanitizing is asked for. -/
structure SanitizeRequest where
  /-- The source file. -/
  path : String
  encoding : String := Command.defaultEncoding
  mode : LineMode := .drop
  /-- The file to write; none is named by no text. -/
  output : String := ""
  logging : Logging := {}

namespace SanitizeRequest

/-- What the arguments ask for. -/
def ofArguments (a : Arguments) : SanitizeRequest where
  path := a.positional.headD ""
  encoding := a.text "encoding" Command.defaultEncoding
  mode := LineMode.ofSwitch (a.isOn "preserve-lines" false)
  output := a.text "output" ""
  logging := Logging.ofArguments a

/-- Sanitizes a source file. -/
def act (r : SanitizeRequest) : Act Unit := do
  let world ← get
  let text ← Act.require .failure (readSource world.decoders world.files r.path r.encoding)
  let sanitized := sanitize r.mode text
  if r.output = "" then Act.write (Writing.write (String.ofList sanitized))
  else
    let bytes := Utf8.encode sanitized
    let (error?, files) := world.files.write r.output bytes
    modify fun w => { w with files }
    match error? with
    | some e => throw (.failure (.file e))
    | none => Act.note (r.logging.writtenLine world.clock r.output bytes.length)

end SanitizeRequest

/-! ## Versions and help -/

namespace Command

/-- Shows the version. Whether it is taken does not matter. -/
def showVersion (a : Arguments) : Act Unit :=
  Act.offer
    [(if a.isOn "build-info" false then Nesting.version.full else Nesting.version.core) ++ "\n"]

/-- The line that shows the version in front of what a command does. -/
def versionLine : String :=
  program ++ ": version " ++ quoted Nesting.version.core ++ "\n"

/-- Whether a text can stand between two grave accents. -/
def fitsAccents (t : Text) : Bool :=
  t.all fun c => !(c.toNat < 0x20 && c ≠ '\t') && c.toNat ∉ [0x60, 0x7f, 0xfeff]

/-- A text between two grave accents, or else in quotes. -/
def accented (s : String) : String :=
  if fitsAccents s.toList then "`" ++ s ++ "`" else quoted s

/-- Shows the help of the command that arguments name. -/
def showHelp (arguments : List String) : Act Unit :=
  match select arguments with
  | .command c _ => Act.offer c.helpPieces
  | .unknown _ =>
    Act.offer
      (("Unknown help topic [" ++ " ".intercalate (arguments.map accented) ++ "]\n")
        :: root.usagePieces root.localFlags)

end Command

end Nesting
