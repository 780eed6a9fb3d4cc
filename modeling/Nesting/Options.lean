/-!
# Scan options

Two numbers say how much of a scan a report shows: the context radius, the number of characters on
each side of the delimiter that stopped the scan, and the stack tail, the number of openers listed
when some are left. They are set one after the other, the last one of a kind counts, and a negative
number is refused.
-/

namespace Nesting

/-- One setting of a scan. -/
inductive Setting where
  /-- How many characters of context are shown on each side of an error. -/
  | contextRadius (n : Int)
  /-- How many of the openers left at the end are listed. -/
  | stackTail (n : Int)
  deriving DecidableEq

/-- Why a setting is refused. -/
inductive SettingError where
  | negativeRadius (n : Int)
  | negativeTail (n : Int)
  deriving DecidableEq

/-- The wording of a refusal. -/
def SettingError.message : SettingError → String
  | .negativeRadius n => "context radius: " ++ toString n ++ ": must not be negative"
  | .negativeTail n => "stack tail: " ++ toString n ++ ": must not be negative"

/-- How much of a scan its report shows. -/
structure Options where
  contextRadius : Nat := 40
  stackTail : Nat := 5
  deriving DecidableEq

namespace Options

/-- Changes one number, unless the setting is negative. -/
def set (o : Options) : Setting → Except SettingError Options
  | .contextRadius n =>
    if n < 0 then .error (.negativeRadius n) else .ok { o with contextRadius := n.toNat }
  | .stackTail n =>
    if n < 0 then .error (.negativeTail n) else .ok { o with stackTail := n.toNat }

/-- Applies settings in order; the first refusal ends it. -/
def setAll (o : Options) : List Setting → Except SettingError Options
  | [] => .ok o
  | s :: rest =>
    match o.set s with
    | .ok next => next.setAll rest
    | .error e => .error e

/-- The options after a list of settings, from the defaults on. -/
def ofSettings (settings : List Setting) : Except SettingError Options :=
  setAll {} settings

end Options

end Nesting
