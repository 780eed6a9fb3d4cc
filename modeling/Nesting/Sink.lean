/-!
# Writing to a sink

A rendering is handed to its sink piece by piece. A sink may stop taking pieces: from its
`failAt`-th call on it refuses every one and keeps none of them. A rendering ends at the first
refusal, and it ends as well where the report that it renders lacks what it needs. What was written
before stays written, so a rendering is a computation that keeps its state when it fails.
-/

namespace Nesting

/-- Why a rendering ends early. -/
inductive Fault where
  /-- The sink refused a piece. -/
  | refused
  /-- The report names an outcome that needs an entry, and the entry is not there. -/
  | missingEntry
  /-- The padding in front of a caret has no width that fits in memory. -/
  | paddingOutOfRange
  deriving DecidableEq

/-- The wording of a fault. -/
def Fault.message : Fault → String
  | .refused => "write failed"
  | .missingEntry => "runtime error: invalid memory address or nil pointer dereference"
  | .paddingOutOfRange => "runtime error: makeslice: cap out of range"

/-- Where a rendering goes. -/
structure Sink where
  /-- The number of the first call that is refused, counted from 1; with 0 none is. -/
  failAt : Nat := 0
  /-- How many calls there have been. -/
  calls : Nat := 0
  /-- The pieces taken, in order. -/
  pieces : List String := []

/-- What a sink holds. -/
def Sink.text (s : Sink) : String :=
  String.join s.pieces

/-- Whether the next call is refused. -/
def Sink.refusesNext (s : Sink) : Bool :=
  s.failAt ≠ 0 && s.failAt ≤ s.calls + 1

/-- A computation that writes to a sink and may end early. -/
abbrev Writing := EStateM Fault Sink

namespace Writing

/-- Hands one piece to the sink. -/
def write (piece : String) : Writing Unit := fun s =>
  if s.refusesNext then .error .refused { s with calls := s.calls + 1 }
  else .ok () { s with calls := s.calls + 1, pieces := s.pieces ++ [piece] }

/-- The entry that the rendering needs. -/
def need {α : Type} : Option α → Writing α
  | some a => pure a
  | none => throw .missingEntry

/-- Writes one thing after the other. -/
def each {α : Type} (f : α → Writing Unit) : List α → Writing Unit
  | [] => pure ()
  | a :: rest => do
    f a
    each f rest

/-- The fault that a computation ended with, if any, and the sink after it. -/
def runOn {α : Type} (w : Writing α) (s : Sink) : Option Fault × Sink :=
  match w.run s with
  | .ok _ s => (none, s)
  | .error e s => (some e, s)

/-- All that is written to a sink that takes everything. -/
def text {α : Type} (w : Writing α) : Except Fault String :=
  match w.run {} with
  | .ok _ s => .ok s.text
  | .error e _ => .error e

end Writing

end Nesting
