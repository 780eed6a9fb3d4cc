/-!
# Keys

The six settings of a check, under the names that configuration files use, and the environment
variables that set them.
-/

namespace Nesting

/-- A setting of a check. -/
inductive Key where
  | contextRadius
  | stackTail
  | encoding
  | preserveLines
  | format
  | exitCode
  deriving DecidableEq

namespace Key

/-- Every key, in the order in which values are decoded. -/
def all : List Key :=
  [contextRadius, stackTail, encoding, preserveLines, format, exitCode]

/-- The name of a key. -/
def name : Key → String
  | contextRadius => "context_radius"
  | stackTail => "stack_tail"
  | encoding => "encoding"
  | preserveLines => "preserve_lines"
  | format => "format"
  | exitCode => "exit_code"

/-- Whether a name in lower case is that of a key but for the long s, which is a form of the same
letter. -/
def isVariant (k : Key) (s : String) : Bool :=
  s ≠ k.name && s.toList.map (fun c => if c = '\u017f' then 's' else c) = k.name.toList

/-- The environment variable of a key. -/
def environmentName : Key → String
  | contextRadius => "BRACKETS_CONTEXT_RADIUS"
  | stackTail => "BRACKETS_STACK_TAIL"
  | encoding => "BRACKETS_ENCODING"
  | preserveLines => "BRACKETS_PRESERVE_LINES"
  | format => "BRACKETS_FORMAT"
  | exitCode => "BRACKETS_EXIT_CODE"

theorem name_injective {k l : Key} (h : k.name = l.name) : k = l := by
  revert h
  cases k <;> cases l <;> decide

end Key

end Nesting
