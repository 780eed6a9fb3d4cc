import Nesting.Delimiter
import Nesting.Word

/-!
# Marks, entries and spans

A *mark* is a delimiter that a scan has found: the character and its place in the text. An *entry*
is what a report says about a mark. Entries hold plain integers, since a report need not come from a
scan; `Mark.entry` is the entry of a mark. A *span* is a range of a text, as a diagnostic shows it.
-/

namespace Nesting

/-- A delimiter found in a text. Lines and columns count from 1, offsets from 0. -/
structure Mark where
  char : Char
  line : Nat
  column : Nat
  offset : Nat
  deriving DecidableEq

/-- A delimiter in a report. -/
structure Entry where
  /-- The code point of the delimiter. -/
  delimiter : CodePoint
  line : Int
  column : Int
  offset : Int
  deriving DecidableEq

/-- What a report says about a mark. -/
def Mark.entry (m : Mark) : Entry where
  delimiter := CodePoint.ofChar m.char
  line := m.line
  column := m.column
  offset := m.offset

namespace Entry

/-- The character that is shown for the delimiter. -/
def glyph (e : Entry) : Char := e.delimiter.glyph

/-- Line and column. -/
def place (e : Entry) : String :=
  toString e.line ++ " " ++ toString e.column

/-- The delimiter, its line and its column. -/
def describe (e : Entry) : String :=
  e.glyph.toString ++ " at " ++ e.place

/-- Line and column with a colon between, as error messages give them. -/
def coordinates (e : Entry) : String :=
  toString e.line ++ ":" ++ toString e.column

end Entry

/-- The range from `start` up to `stop` of a text, with the line and the column where it starts. -/
structure Span where
  start : Int
  stop : Int
  line : Int
  column : Int
  deriving DecidableEq

/-- The span that holds just the delimiter of an entry. -/
def Entry.span (e : Entry) : Span where
  start := e.offset
  stop := Word.wrap (e.offset + 1)
  line := e.line
  column := e.column

end Nesting
