import Nesting.Text

/-!
# Places in a text of YAML

In YAML it matters in which line and column something stands. A cursor is a place in a text: what is
left of the text, and the index, line and column of its first character. There are five ways to end
a line; in the text of a scalar three of them and the pair of carriage return and line feed become a
line feed, while the line and the paragraph separator stay what they are.
-/

namespace Nesting.Yaml

/-! ## Characters -/

/-- White space within a line. -/
def isGap (c : Char) : Bool :=
  c = ' ' || c = '\t'

/-- A character that ends a line. -/
def isBreak (c : Char) : Bool :=
  c = '\n' || c = '\r' || c = '\u0085' || c = '\u2028' || c = '\u2029'

/-- The end of a line, or of the text. -/
def isBreakOrEnd : Option Char → Bool
  | none => true
  | some c => isBreak c

/-- White space, or the end of a line or of the text. -/
def isGapOrEnd : Option Char → Bool
  | none => true
  | some c => isGap c || isBreak c

/-- A character of a name. -/
def isWordChar (c : Char) : Bool :=
  c.isAlphanum || c = '_' || c = '-'

/-! ## Cursors -/

/-- A place in a text. -/
structure Cursor where
  /-- What is left of the text. -/
  rest : Text
  /-- How many characters are left. -/
  left : Nat
  index : Nat := 0
  line : Nat := 0
  column : Nat := 0
  /-- How many lines have ended since the last character that is not white space. -/
  lineEnds : Nat := 0
  /-- Whether the text begins with a byte order mark. -/
  isMarked : Bool := false

namespace Cursor

/-- The beginning of a text. -/
def ofText (t : Text) : Cursor where
  rest := t
  left := t.length
  isMarked := t.head? = some '\ufeff'

/-- The character in front. -/
def head? (c : Cursor) : Option Char :=
  c.rest.head?

/-- The character so many places further. -/
def ahead? (c : Cursor) (n : Nat) : Option Char :=
  c.rest[n]?

/-- The place so many characters further in the same line. -/
def skip (c : Cursor) (n : Nat) : Cursor :=
  let passed := c.rest.take n
  { c with
    rest := c.rest.drop n
    left := c.left - passed.length
    index := c.index + passed.length
    column := c.column + passed.length
    lineEnds := if passed.all isGap then c.lineEnds else 0 }

/-- How many characters end the line in front. -/
def breakLength (c : Cursor) : Nat :=
  match c.rest with
  | '\r' :: '\n' :: _ => 2
  | b :: _ => if isBreak b then 1 else 0
  | [] => 0

/-- The beginning of the next line, if the line ends in front. -/
def skipBreak (c : Cursor) : Cursor :=
  let n := c.breakLength
  if n = 0 then c
  else
    { c with
      rest := c.rest.drop n
      left := c.left - n
      index := c.index + n
      line := c.line + 1
      column := 0
      lineEnds := c.lineEnds + 1 }

/-- What the end of the line in front adds to the text of a scalar. -/
def breakText (c : Cursor) : Text :=
  match c.rest with
  | b :: _ => if !isBreak b then [] else if b = '\u2028' || b = '\u2029' then [b] else ['\n']
  | [] => []

/-- Whether a document begins or ends here. -/
def isAtMark (c : Cursor) : Bool :=
  c.column = 0 && (c.rest.take 3 = "---".toList || c.rest.take 3 = "...".toList)
    && isGapOrEnd (c.ahead? 3)

end Cursor

/-! ## Reading from a cursor -/

/-- Takes a thing off the front of what is left, or fails. -/
abbrev Scan := StateT Cursor Option

namespace Scan

variable {β σ : Type}

/-- The character in front. -/
def peek : Scan (Option Char) := do
  return (← get).head?

/-- Goes over so many characters in the same line. -/
def skip (n : Nat) : Scan Unit :=
  modify (·.skip n)

/-- Takes characters of one line as long as they have a property. -/
def takeWhile (p : Char → Bool) : Scan Text := do
  let taken := (← get).rest.takeWhile p
  skip taken.length
  return taken

/-- Goes over white space within the line. -/
def skipGap : Scan Unit := do
  let _ ← takeWhile isGap

/-- Takes the given character. -/
def char (c : Char) : Scan Unit := do
  guard ((← peek) = some c)
  skip 1

/-- Takes the end of the line in front, if it ends there; what that adds to a scalar. -/
def takeBreak : Scan Text := do
  let c ← get
  set c.skipBreak
  return c.breakText

/-- Does at most the given number of steps. -/
def loopFor (step : σ → Scan (σ ⊕ β)) : Nat → σ → Scan β
  | 0, _ => failure
  | n + 1, s => do
    match ← step s with
    | .inl s => loopFor step n s
    | .inr b => pure b

/-- Repeats a step until it has a result. A step without one takes a character. -/
def loop (step : σ → Scan (σ ⊕ β)) (s : σ) : Scan β := do
  loopFor step ((← get).left + 2) s

/-- Goes to the end of the line over white space and a comment, if nothing else is there, and to the
next line. -/
def endLine : Scan Unit := do
  skipGap
  if (← peek) = some '#' then
    let _ ← takeWhile (!isBreak ·)
  guard (isBreakOrEnd (← peek))
  let _ ← takeBreak

end Scan

end Nesting.Yaml
