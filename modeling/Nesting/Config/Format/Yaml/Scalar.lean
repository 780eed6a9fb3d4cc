import Nesting.Config.Format.Yaml.Cursor
import Nesting.Number.Literal

/-!
# How scalars of YAML are written

A scalar is plain, quoted, or a block. Plain and quoted ones may go over several lines: white space
around the end of a line is dropped, the end itself is a space, and each empty line behind it is an
end of line. A block keeps its lines; a folded one joins those that are not indented further by a
space. Where a plain scalar ends depends on what is around it: outside of brackets a line that is
not indented far enough ends it, within brackets every bracket and comma.
-/

namespace Nesting.Yaml

open Scan

/-! ## Gaps in scalars -/

/-- White space in a scalar: what is in front of the first end of a line, and the ends of lines. -/
structure Gap where
  blanks : Text := []
  breaks : Text := []

namespace Gap

/-- What a gap adds to a scalar. -/
def folded (g : Gap) : Text :=
  match g.breaks with
  | [] => g.blanks
  | ['\n'] => [' ']
  | '\n' :: more => more
  | breaks => breaks

end Gap

/-- The white space in front. At the beginning of a line, a tab in front of the given column is an
error. -/
def gap (least : Int) : Scan Gap :=
  loop
    (fun g => do
      match ← peek with
      | none => pure (.inr g)
      | some c =>
        if isGap c then
          guard (!(g.breaks ≠ [] && c = '\t' && ((← get).column : Int) < least))
          skip 1
          pure (.inl { g with blanks := g.blanks ++ [c] })
        else if isBreak c then
          let b ← takeBreak
          pure (.inl { g with breaks := g.breaks ++ b })
        else pure (.inr g))
    {}

/-! ## Plain scalars -/

/-- Characters that cannot begin a plain scalar. -/
def indicators : List Char :=
  "-?:,[]\x7b\x7d#&*!|>'\"%@".toList ++ [Char.ofNat 0x60]

/-- Whether a plain scalar can begin here. Some indicators are harmless with a character behind
them. -/
def beginsPlain (inFlow : Bool) (c : Cursor) : Bool :=
  match c.head? with
  | none => false
  | some a =>
    let behind := c.ahead? 1
    !(isGapOrEnd (some a) || indicators.contains a)
      || (a = '-' && !(behind.map isGap).getD false)
      || (!inFlow && (a = '?' || a = ':') && !isGapOrEnd behind)

/-- Whether a character of a plain scalar ends a word of it, given what is behind the character. -/
def endsWord (inFlow : Bool) (c : Char) (behind : Option Char) : Bool :=
  isGap c || isBreak c || (c = ':' && isGapOrEnd behind)
    || (inFlow && ",?[]\x7b\x7d".toList.contains c)

/-- The word of a plain scalar that a text begins with. -/
def wordOf (inFlow : Bool) : Text → Text
  | [] => []
  | c :: rest => if endsWord inFlow c rest.head? then [] else c :: wordOf inFlow rest

/-- How far a plain scalar has been read: its text, and the white space behind it. -/
structure PlainProgress where
  text : Text := []
  gap : Gap := {}

/-- A plain scalar, and whether a line has ended behind it. Outside of brackets its lines reach to
the given column. -/
def plainScalar (inFlow : Bool) (least : Int) : Scan (Text × Bool) :=
  loop
    (fun p => do
      let here ← get
      let ended : PlainProgress → (Text × Bool) := fun p => (p.text, p.gap.breaks ≠ [])
      if here.isAtMark || here.head? = some '#' then pure (.inr (ended p))
      else
        let word := wordOf inFlow here.rest
        skip word.length
        let p := if word = [] then p else { text := p.text ++ p.gap.folded ++ word }
        match ← peek with
        | none => pure (.inr (ended p))
        | some c =>
          if isGap c || isBreak c then
            let p := { p with gap := ← gap least }
            if !inFlow && ((← get).column : Int) < least then pure (.inr (ended p))
            else pure (.inl p)
          else pure (.inr (ended p)))
    ({} : PlainProgress)

/-! ## Quoted scalars -/

/-- The character with a code of the given number of hexadecimal digits. -/
def code (width : Nat) : Scan Char := do
  let spelt := (← get).rest.take width
  guard (spelt.length = width && spelt.all fun c => (Literal.digit? 16 c).isSome)
  let n := spelt.foldl (fun n c => n * 16 + (Literal.digit? 16 c).getD 0) 0
  guard n.isValidChar
  skip width
  return Char.ofNat n

/-- The character of an escape, behind its backslash. -/
def escaped : Scan Char := do
  let letter ← peek
  skip 1
  match letter with
  | some '0' => pure '\x00'
  | some 'a' => pure '\x07'
  | some 'b' => pure '\x08'
  | some 't' | some '\t' => pure '\t'
  | some 'n' => pure '\n'
  | some 'v' => pure '\x0b'
  | some 'f' => pure '\x0c'
  | some 'r' => pure '\r'
  | some 'e' => pure '\x1b'
  | some ' ' => pure ' '
  | some '"' => pure '"'
  | some '\'' => pure '\''
  | some '\\' => pure '\\'
  | some 'N' => pure '\u0085'
  | some '_' => pure '\u00a0'
  | some 'L' => pure '\u2028'
  | some 'P' => pure '\u2029'
  | some 'x' => code 2
  | some 'u' => code 4
  | some 'U' => code 8
  | _ => failure

/-- A row of characters of a quoted scalar without white space, and whether it ends in an escaped
end of line. -/
def quotedWord (quote : Char) : Scan (Text × Bool) :=
  loop
    (fun word => do
      match ← peek with
      | none => pure (.inr (word, false))
      | some c =>
        let behind := (← get).ahead? 1
        if isGap c || isBreak c then pure (.inr (word, false))
        else if c = quote then
          if quote = '\'' && behind = some '\'' then
            skip 2
            pure (.inl (word ++ ['\'']))
          else pure (.inr (word, false))
        else if c = '\\' && quote = '"' then
          skip 1
          if (behind.map isBreak).getD false then
            let _ ← takeBreak
            pure (.inr (word, true))
          else pure (.inl (word ++ [← escaped]))
        else
          skip 1
          pure (.inl (word ++ [c])))
    []

/-- A scalar in quotes of the given kind. Behind an escaped end of line, only empty lines count. -/
def quotedScalar (quote : Char) : Scan Text := do
  char quote
  loop
    (fun taken => do
      let here ← get
      guard (!here.isAtMark && here.head?.isSome)
      let (word, isJoined) ← quotedWord quote
      if (← peek) = some quote then
        skip 1
        pure (.inr (taken ++ word))
      else
        let g ← gap 0
        pure (.inl (taken ++ word ++ if isJoined then g.breaks else g.folded)))
    []

/-! ## Blocks -/

/-- What is done with the ends of lines at the end of a block. -/
inductive Chomping where
  /-- The last line keeps its end. -/
  | clip
  /-- All are dropped. -/
  | strip
  /-- All are kept. -/
  | keep

/-- The mark for what is done with the ends of lines, if there is one. -/
def chomping? : Scan (Option Chomping) := do
  match ← peek with
  | some '+' => do skip 1; pure (some .keep)
  | some '-' => do skip 1; pure (some .strip)
  | _ => pure none

/-- The digit for the indentation, if there is one. -/
def increment? : Scan (Option Nat) := do
  match ← peek with
  | some c =>
    if c.isDigit then
      guard (c ≠ '0')
      skip 1
      pure (some (c.toNat - '0'.toNat))
    else pure none
  | none => pure none

/-- The two marks behind the indicator of a block, in either order. -/
def blockHeader : Scan (Chomping × Option Nat) := do
  match ← chomping? with
  | some chomping => pure (chomping, ← increment?)
  | none => do
    let increment ← increment?
    pure ((← chomping?).getD .clip, increment)

/-- Goes over indentation and empty lines in front of a line of a block: the ends of these lines,
and the greatest column that they reach. Without a given indentation, all spaces belong to it. -/
def blockBreaks (indent : Option Nat) : Scan (Text × Nat) :=
  loop
    (fun (breaks, widest) => do
      let here ← get
      let spaces := (here.rest.takeWhile (· = ' ')).length
      skip (indent.elim spaces fun n => min spaces (n - here.column))
      let column := (← get).column
      let within := indent.elim true (column < ·)
      guard (!(within && (← peek) = some '\t'))
      let widest := max widest column
      if ((← peek).map isBreak).getD false then
        let b ← takeBreak
        pure (.inl (breaks ++ b, widest))
      else pure (.inr (breaks, widest)))
    ([], 0)

/-- How far a block has been read. -/
structure BlockProgress where
  text : Text := []
  /-- The end of the last line. -/
  lineEnd : Text := []
  /-- The ends of empty lines behind it. -/
  breaks : Text := []
  /-- Whether the last line begins with white space. -/
  isIndented : Bool := false

/-- The lines of a block with the given indentation. -/
def blockLines (isFolded : Bool) (indent : Nat) (breaks : Text) : Scan BlockProgress :=
  loop
    (fun p => do
      let here ← get
      if here.column = indent && here.head?.isSome then
        let isIndented := (here.head?.map isGap).getD false
        let joined :=
          if isFolded && !p.isIndented && !isIndented && p.lineEnd = ['\n'] then
            if p.breaks = [] then [' '] else []
          else p.lineEnd
        let line ← takeWhile (!isBreak ·)
        let lineEnd ← takeBreak
        let (breaks, _) ← blockBreaks (some indent)
        pure (.inl { text := p.text ++ joined ++ p.breaks ++ line, lineEnd, breaks, isIndented })
      else pure (.inr p))
    { breaks }

/-- A block, within something that is indented so far. -/
def blockScalar (isFolded : Bool) (outer : Int) : Scan Text := do
  skip 1
  let (chomping, increment) ← blockHeader
  endLine
  let indent := increment.map fun n => if 0 ≤ outer then outer.toNat + n else n
  let (breaks, widest) ← blockBreaks indent
  let p ← blockLines isFolded (indent.getD (max widest (max (outer + 1).toNat 1))) breaks
  match chomping with
  | .strip => pure p.text
  | .clip => pure (p.text ++ p.lineEnd)
  | .keep => pure (p.text ++ p.lineEnd ++ p.breaks)

end Nesting.Yaml
