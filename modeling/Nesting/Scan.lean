import Nesting.Entry
import Nesting.Text

/-!
# The scan

A scan walks a text once from left to right. Its state is the place it has come to and the stack of
openers that are still open, the innermost first. A character that delimits nothing only moves the
place; an opener is pushed; a closer takes the innermost opener off the stack, and the scan stops at
the first closer that finds the stack empty or an opener of another pair on top.

`step` treats one character and `run` the rest of a text from any state, so that statements about a
whole scan are inductions over the text that hold for every stack.
-/

namespace Nesting.Scan

/-- Where a scan has come to. -/
structure State where
  /-- The line of the last character read, counted from 1. -/
  line : Nat := 1
  /-- How many characters of that line have been read. -/
  column : Nat := 0
  /-- How many characters of the text have been read. -/
  offset : Nat := 0
  /-- The openers that are still open, the innermost first. -/
  stack : List Mark := []
  deriving DecidableEq

/-- How a scan ends. -/
inductive Verdict where
  /-- The text ended and no closer was wrong; openers may be left. -/
  | balanced
  /-- A closer came when nothing was open. -/
  | unmatched (closer : Mark)
  /-- A closer of another pair than the innermost opener. -/
  | mismatched (opener closer : Mark)
  deriving DecidableEq

/-- The end of a scan: its verdict and the state it was in. The opener that a wrong closer met is no
longer on the stack. -/
structure Halt where
  verdict : Verdict
  state : State
  deriving DecidableEq

/-- The mark of a character read next. -/
def State.mark (s : State) (c : Char) : Mark where
  char := c
  line := s.line
  column := s.column + 1
  offset := s.offset

/-- The place after a character: a line feed starts a line, any other character adds a column. -/
def State.advance (s : State) (c : Char) : State :=
  if c = '\n' then { s with line := s.line + 1, column := 0, offset := s.offset + 1 }
  else { s with column := s.column + 1, offset := s.offset + 1 }

/-- Reads one character, and halts at a closer that closes nothing or the wrong thing. -/
def step (s : State) (c : Char) : Except Halt State :=
  let next := s.advance c
  match Kind.ofChar c with
  | .notDelimiter => .ok next
  | .opener => .ok { next with stack := s.mark c :: s.stack }
  | .closer =>
    match s.stack with
    | [] => .error ⟨.unmatched (s.mark c), next⟩
    | opener :: rest =>
      if closing? opener.char = some c then .ok { next with stack := rest }
      else .error ⟨.mismatched opener (s.mark c), { next with stack := rest }⟩

/-- Reads a text from a state on. -/
def run (s : State) : Text → Halt
  | [] => ⟨.balanced, s⟩
  | c :: rest =>
    match step s c with
    | .ok next => run next rest
    | .error halt => halt

/-- Scans a whole text. -/
def scan (t : Text) : Halt :=
  run {} t

end Nesting.Scan
