import Nesting.Sanitizer
import Nesting.Scanner

/-!
# Checking a text

A check sanitizes a text and scans what is left. Places in its report are places in the sanitized
text; with `LineMode.keep` the lines are those of the text itself, unless a literal spans lines.
-/

namespace Nesting

/-- A scanner for the sanitized text, unless a setting is refused. -/
def checker (name : String) (mode : LineMode) (t : Text) (settings : List Setting) :
    Except SettingError Scanner :=
  Scanner.ofSettings name (sanitize mode t) settings

/-- The report on a text, unless a setting is refused. -/
def check (name : String) (mode : LineMode) (t : Text) (settings : List Setting) :
    Except SettingError Report :=
  match checker name mode t settings with
  | .ok scanner => .ok scanner.scan.1
  | .error e => .error e

end Nesting
