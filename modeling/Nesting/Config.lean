import Nesting.Config.Sources
import Nesting.Failure
import Nesting.Options

/-!
# Configurations

A configuration gives each of the six settings a value of its type. Sources are less strict: a
number may come as a text, a truth value as a number. Each field is read from what its source says
as far as that can be done; the fields that cannot be read are all reported together. A
configuration is then checked, and one that passes is accepted by every scanner.
-/

namespace Nesting

/-- The settings of a check. -/
structure Config where
  contextRadius : Int := 0
  stackTail : Int := 0
  encoding : RawText := ""
  preserveLines : Bool := false
  format : RawText := ""
  exitCode : Bool := false
  deriving DecidableEq

/-! ## Reading fields -/

/-- The type of a field. -/
inductive FieldType where
  | integer
  | text
  | truth
  deriving DecidableEq

/-- Why a field cannot be read. -/
inductive FieldError where
  /-- A text that does not spell a value of the field's type. -/
  | misspelt (key : Key) (error : LiteralError)
  /-- A list, a table or a date where the field wants a number, a text or a truth value. -/
  | unconvertible (key : Key) (type : FieldType) (value : Value)

/-- The name of a value's type. -/
def Value.typeName : Value → String
  | .null => "nil"
  | .truth _ => "bool"
  | .integer n => if n ≤ Word.greatest then "int" else "uint64"
  | .float _ => "float64"
  | .text _ => "string"
  | .calendar c => c.typeName
  | .list _ => Value.listType
  | .table _ => Value.tableType
  | .mixed _ => Value.mixedType

/-- The wording of a field's error. -/
def FieldError.message : FieldError → String
  | misspelt key error =>
    "cannot parse '" ++ key.name ++ "' as "
      ++ (match error.kind with
        | .integer => "int"
        | .truth => "bool")
      ++ ": " ++ error.message
  | unconvertible key type value =>
    let (expected, actual, shown) :=
      match type with
      | .integer => ("int", value.typeName, value.plain)
      | .text => ("string", value.typeName, value.plain)
      | .truth => ("%!s(bool=false)", value.literal, value.literal)
    "'" ++ key.name ++ "' expected type '" ++ expected ++ "', got unconvertible type '" ++ actual
      ++ "', value: '" ++ shown ++ "'"

namespace Value

/-- The integer that a value stands for. A number without a sign wraps around, a fraction is cut
off, and no text is zero. -/
def toInteger (key : Key) : Value → Except FieldError Int
  | null => .ok 0
  | truth b => .ok (if b then 1 else 0)
  | integer n => .ok (Word.wrap n)
  | float x => .ok x.truncate
  | text r =>
    if r = "" then .ok 0
    else
      match readInteger r with
      | .ok n => .ok n
      | .error e => .error (.misspelt key e)
  | v => .error (.unconvertible key .integer v)

/-- The text that a value stands for. -/
def toText (key : Key) : Value → Except FieldError RawText
  | null => .ok ""
  | truth b => .ok (RawText.ofString (if b then "1" else "0"))
  | integer n => .ok (RawText.ofString (toString n))
  | float x => .ok x.positional
  | text r => .ok r
  | v => .error (.unconvertible key .text v)

/-- The truth value that a value stands for. A number is true unless it is zero, and no text is
false. -/
def toTruth (key : Key) : Value → Except FieldError Bool
  | null => .ok false
  | truth b => .ok b
  | integer n => .ok (n ≠ 0)
  | float x => .ok (!x.isZero)
  | text r =>
    if r = "" then .ok false
    else
      match readTruth r with
      | .ok b => .ok b
      | .error e => .error (.misspelt key e)
  | v => .error (.unconvertible key .truth v)

end Value

namespace Config

/-- Reads the field under a key, if there is a value for it. -/
def field {α : Type} (zero : α) (read : Key → Value → Except FieldError α)
    (value? : Key → Option Value) (key : Key) : Except FieldError α :=
  match value? key with
  | none => .ok zero
  | some v => read key v

/-- The error of a field, if it has one. -/
def fieldErrors {α : Type} : Except FieldError α → List FieldError
  | .ok _ => []
  | .error e => [e]

/-- The configuration that the values of the keys make, or everything that is wrong with them in the
order of the keys. -/
def decode (value? : Key → Option Value) : Except (List FieldError) Config :=
  let contextRadius := field 0 Value.toInteger value? .contextRadius
  let stackTail := field 0 Value.toInteger value? .stackTail
  let encoding := field (RawText.ofString "") Value.toText value? .encoding
  let preserveLines := field false Value.toTruth value? .preserveLines
  let format := field (RawText.ofString "") Value.toText value? .format
  let exitCode := field false Value.toTruth value? .exitCode
  match contextRadius, stackTail, encoding, preserveLines, format, exitCode with
  | .ok contextRadius, .ok stackTail, .ok encoding, .ok preserveLines, .ok format, .ok exitCode =>
    .ok { contextRadius, stackTail, encoding, preserveLines, format, exitCode }
  | _, _, _, _, _, _ =>
    .error (fieldErrors contextRadius ++ fieldErrors stackTail ++ fieldErrors encoding
      ++ fieldErrors preserveLines ++ fieldErrors format ++ fieldErrors exitCode)

end Config

/-! ## Checking -/

/-- What can be wrong with a configuration. -/
inductive ConfigFault where
  | negativeRadius
  | negativeTail
  | unknownFormat (format : RawText)
  deriving DecidableEq

/-- The name of the plain format. -/
def textFormat : String := "text"

/-- The name of the format with carets. -/
def diagnosticFormat : String := "diagnostic"

/-- The wording of a configuration's fault. -/
def ConfigFault.message : ConfigFault → String
  | negativeRadius => "context_radius must not be negative"
  | negativeTail => "stack_tail must not be negative"
  | unknownFormat format =>
    "format " ++ format.quoted ++ ": must be " ++ quoted textFormat ++ " or "
      ++ quoted diagnosticFormat

namespace Config

/-- The first thing that is wrong with a configuration. -/
def fault? (c : Config) : Option ConfigFault :=
  if c.contextRadius < 0 then some .negativeRadius
  else if c.stackTail < 0 then some .negativeTail
  else if c.format = textFormat ∨ c.format = diagnosticFormat then none
  else some (.unknownFormat c.format)

/-- The settings for a scanner. -/
def settings (c : Config) : List Setting :=
  [.contextRadius c.contextRadius, .stackTail c.stackTail]

end Config

/-- Why there is no configuration. -/
inductive ConfigError where
  /-- The configuration file cannot be read. -/
  | file (error : FileError)
  /-- The extension of the file names no format. -/
  | unsupported (extension : String)
  /-- The file is not of its format. -/
  | malformed (path : String)
  /-- Fields that cannot be read. -/
  | fields (errors : List FieldError)
  /-- A configuration that is refused. -/
  | invalid (fault : ConfigFault)

/-- The wording of a configuration error. -/
def ConfigError.message : ConfigError → String
  | file error => "read config: " ++ error.message
  | unsupported extension => "read config: Unsupported Config Type " ++ quoted extension
  | malformed path => "read config: " ++ path ++ ": malformed"
  | fields errors =>
    "unable to decode config: decoding failed due to the following error(s):\n\n"
      ++ "\n".intercalate (errors.map FieldError.message)
  | invalid fault => "invalid configuration: " ++ fault.message

namespace Config

/-- The configuration that sources make. -/
def ofSources (s : Sources) : Except ConfigError Config :=
  match decode s.value? with
  | .error errors => .error (.fields errors)
  | .ok config =>
    match config.fault? with
    | some fault => .error (.invalid fault)
    | none => .ok config

/-- The values for want of others. -/
def defaults : Key → Option Value
  | .contextRadius => some (.integer ({} : Options).contextRadius)
  | .stackTail => some (.integer ({} : Options).stackTail)
  | .encoding => some (.text "utf-8")
  | .preserveLines => some (.truth false)
  | .format => some (.text textFormat)
  | .exitCode => some (.truth false)

end Config

end Nesting
