import Nesting.Report

/-!
# Scanning by positions

The scan of `Scan.run` consumes its text. The same scan can be made in a text that stays as it is,
with two positions in it: that of the current character and that of the next one. Positions are
plain integers, and there may be no character at a position; a scan that looks for one there has no
result.

A line feed is read and counted like any other character, but the scan goes on to the next one
without treating it. At the end of the text the current position is moved behind the last character,
while the character stays the one that was read last.
-/

namespace Nesting

/-- The character at a position of a text, if there is one. -/
def charAt? (t : Text) (position : Int) : Option Char :=
  if 0 ≤ position then t[position.toNat]? else none

/-- Where a scan by positions has come to. -/
structure Cursor where
  input : Text
  /-- The length of the input. -/
  length : Int
  /-- The character read last, once there is one. -/
  char : Char := '\x00'
  /-- The line that the next position is on, counted from 1. -/
  line : Int := 1
  /-- How many characters of that line are in front of the next position. -/
  column : Int := 0
  /-- The position of the character read last, and at the end of the text the length. -/
  current : Int := 0
  /-- The position of the character to be read next. -/
  next : Int := 0
  /-- The openers that are still open, the innermost first. -/
  stack : List Entry := []

/-- How a scan by positions stops, and the cursor then. -/
structure Stop where
  outcome : Outcome
  opener : Option Entry := none
  closer : Option Entry := none
  cursor : Cursor

namespace Cursor

/-- The cursor at the start of a text. -/
def start (t : Text) : Cursor where
  input := t
  length := t.length

/-- Reads the next character and counts it. -/
def read? (c : Cursor) : Option Cursor :=
  (charAt? c.input c.next).map fun char =>
    { c with
      char
      line := if char = '\n' then c.line + 1 else c.line
      column := if char = '\n' then 0 else c.column + 1
      current := c.next
      next := c.next + 1 }

theorem read?_moves {c moved : Cursor} (h : c.read? = some moved) :
    moved.length = c.length ∧ moved.current = c.next ∧ moved.next = c.next + 1 := by
  obtain ⟨char, -, rfl⟩ := Option.map_eq_some_iff.mp h
  exact ⟨rfl, rfl, rfl⟩

/-- Goes to the next character that is no line feed, and says whether there is one. -/
def advance? (c : Cursor) : Option (Bool × Cursor) :=
  if c.next < c.length then
    match _h : c.read? with
    | none => none
    | some moved => if moved.char = '\n' then moved.advance? else some (true, moved)
  else some (false, { c with current := c.length })
termination_by (c.length - c.next).toNat
decreasing_by
  obtain ⟨hlength, -, hnext⟩ := read?_moves _h
  omega

theorem advance?_moves {c found : Cursor} (h : c.advance? = some (true, found)) :
    found.length = c.length ∧ c.next < found.next ∧ c.next < c.length := by
  fun_induction advance? c with
  | case1 => cases h
  | case2 c hlt moved hread hfeed ih =>
    obtain ⟨hlength, -, hnext⟩ := read?_moves hread
    obtain ⟨hlength', hnext', -⟩ := ih h
    omega
  | case3 c hlt moved hread =>
    cases h
    obtain ⟨hlength, -, hnext⟩ := read?_moves hread
    omega
  | case4 => cases h

/-- The entry of the current character. -/
def entry (c : Cursor) : Entry where
  delimiter := CodePoint.ofChar c.char
  line := c.line
  column := c.column
  offset := c.current

/-- Treats the current character: an opener is pushed, and a closer takes the innermost opener off
the stack. A closer that closes nothing or the wrong thing stops the scan. -/
def treat (c : Cursor) : Except Stop Cursor :=
  match Kind.ofChar c.char with
  | .notDelimiter => .ok c
  | .opener => .ok { c with stack := c.entry :: c.stack }
  | .closer =>
    match c.stack with
    | [] => .error { outcome := .unmatched, closer := some c.entry, cursor := c }
    | opener :: rest =>
      let popped := { c with stack := rest }
      if opener.delimiter.closer = c.entry.delimiter then .ok popped
      else
        .error
          { outcome := .mismatched
            opener := some opener
            closer := some c.entry
            cursor := popped }

/-- Treating a character changes nothing but the stack. -/
theorem treat_cases (c : Cursor) :
    (∃ stack, c.treat = .ok { c with stack }) ∨
      ∃ stop stack, c.treat = .error stop ∧ stop.cursor = { c with stack } := by
  unfold treat
  split
  · exact .inl ⟨_, rfl⟩
  · exact .inl ⟨_, rfl⟩
  · split
    · exact .inr ⟨_, c.stack, rfl, rfl⟩
    · dsimp only
      split
      · exact .inl ⟨_, rfl⟩
      · exact .inr ⟨_, _, rfl, rfl⟩

theorem treat_moves {c treated : Cursor} (h : c.treat = .ok treated) :
    treated.length = c.length ∧ treated.next = c.next := by
  obtain ⟨stack, hok⟩ | ⟨stop, stack, herror, -⟩ := c.treat_cases
  · cases h.symm.trans hok
    exact ⟨rfl, rfl⟩
  · cases h.symm.trans herror

/-- Scans from a cursor on. -/
def scan? (c : Cursor) : Option Stop :=
  match _hadvance : c.advance? with
  | none => none
  | some (false, last) => some { outcome := .balanced, cursor := last }
  | some (true, found) =>
    match _htreat : found.treat with
    | .error stop => some stop
    | .ok treated => treated.scan?
termination_by (c.length - c.next).toNat
decreasing_by
  obtain ⟨hlength, hnext, hlt⟩ := advance?_moves _hadvance
  obtain ⟨hlength', hnext'⟩ := treat_moves _htreat
  omega

end Cursor

/-- The report on a scan by positions. -/
def Stop.report (s : Stop) (name : String) (options : Options) : Report where
  name := name
  outcome := s.outcome
  opener := s.opener
  closer := s.closer
  context :=
    match s.closer with
    | none => ""
    | some closer =>
      String.ofList (onOneLine (window s.cursor.input options.contextRadius closer.offset.toNat))
  depth := s.cursor.stack.length
  top := (s.cursor.stack.take options.stackTail).reverse

end Nesting
