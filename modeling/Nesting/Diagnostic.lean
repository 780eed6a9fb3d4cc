import Nesting.Entry
import Nesting.Sink
import Nesting.Text

/-!
# Diagnostics

A diagnostic points into a text. It is printed as a line with file name, place, severity and
message, the line of the text that it points into, a caret under the delimiter, and its notes. The
padding in front of the caret repeats the tabs of the line above it, so that the two line up
whatever the width of a tab.
-/

namespace Nesting

/-- How much a message matters: four named levels, with room between and around them. -/
structure Severity where
  level : Int
  deriving DecidableEq

namespace Severity

def debug : Severity := ⟨-4⟩
def info : Severity := ⟨0⟩
def warning : Severity := ⟨4⟩
def error : Severity := ⟨8⟩

/-- A name and the signed distance from it, which is left out when it is zero. -/
def offsetName (name : String) (distance : Int) : String :=
  if distance = 0 then name
  else if distance < 0 then name ++ toString distance
  else name ++ "+" ++ toString distance

/-- The name of the nearest level below, with the distance from it; below `INFO` all are measured
from `DEBUG`. -/
def name (s : Severity) : String :=
  if s.level < info.level then offsetName "DEBUG" (s.level - debug.level)
  else if s.level < warning.level then offsetName "INFO" (s.level - info.level)
  else if s.level < error.level then offsetName "WARN" (s.level - warning.level)
  else offsetName "ERROR" (s.level - error.level)

end Severity

/-- A message about a place in a text. -/
structure Diagnostic where
  severity : Severity
  message : String
  span : Span
  notes : List String := []
  deriving DecidableEq

/-! ## The line around an offset

The line that an offset is on is found by two searches for a line feed, one backwards from the
offset and one forwards, and is what stands between. The line feed is a parameter, and so is what a
text is made of. -/

section Line

variable {α : Type}

/-- What stands in a text from one offset up to another. The two must be in order and within the
text. -/
def slice? (t : List α) (start stop : Nat) : Option (List α) :=
  if start ≤ stop ∧ stop ≤ t.length then some ((t.take stop).drop start) else none

theorem slice?_of_le {t : List α} {start stop : Nat} (h : start ≤ stop) (h' : stop ≤ t.length) :
    slice? t start stop = some ((t.take stop).drop start) :=
  if_pos ⟨h, h'⟩

variable [DecidableEq α]

/-- Searches backwards in what stands before an offset, given with the nearest first. The line
begins right behind the line feed, and at the start of the text if there is none. -/
def lineFrom (feed : α) : List α → Nat
  | [] => 0
  | c :: before => if c = feed then before.length + 1 else lineFrom feed before

/-- Searches forwards in what stands from the offset `i` on. The line ends at the line feed, and at
the end of the text if there is none. -/
def lineTo (feed : α) (i : Nat) : List α → Nat
  | [] => i
  | c :: rest => if c = feed then i else lineTo feed (i + 1) rest

/-- The line of a text that an offset is on, without its line feed. A line feed is on the line that
it ends. Outside of the text the line is empty. -/
def lineAround? (feed : α) (t : List α) (offset : Int) : Option (List α) :=
  if 0 ≤ offset ∧ offset < t.length then
    slice? t (lineFrom feed (t.take offset.toNat).reverse)
      (lineTo feed offset.toNat (t.drop offset.toNat))
  else some []

/-- The backward search passes over everything up to a line feed. -/
theorem lineFrom_eq (feed : α) (before : List α) :
    lineFrom feed before = (before.dropWhile (· ≠ feed)).length := by
  induction before with
  | nil => rfl
  | cons c before ih =>
    rw [lineFrom]
    by_cases hc : c = feed
    · rw [if_pos hc, List.dropWhile_cons_of_neg (by simpa using hc), List.length_cons]
    · rw [if_neg hc, List.dropWhile_cons_of_pos (by simpa using hc), ih]

/-- The forward search passes over everything up to a line feed. -/
theorem lineTo_eq (feed : α) (i : Nat) (rest : List α) :
    lineTo feed i rest = i + (rest.takeWhile (· ≠ feed)).length := by
  induction rest generalizing i with
  | nil => rfl
  | cons c rest ih =>
    rw [lineTo]
    by_cases hc : c = feed
    · rw [if_pos hc, List.takeWhile_cons_of_neg (by simpa using hc), List.length_nil, Nat.add_zero]
    · rw [if_neg hc, List.takeWhile_cons_of_pos (by simpa using hc), ih, List.length_cons]
      omega

/-- **The searches stay within the text**, one on each side of the offset that they start from. -/
theorem lineFrom_le_lineTo_le (feed : α) {t : List α} {i : Nat} (h : i ≤ t.length) :
    lineFrom feed (t.take i).reverse ≤ i ∧ i ≤ lineTo feed i (t.drop i) ∧
      lineTo feed i (t.drop i) ≤ t.length := by
  have hback :=
    (List.dropWhile_suffix (fun c => decide (c ≠ feed)) (l := (t.take i).reverse)).length_le
  have hon := (List.takeWhile_prefix (fun c => decide (c ≠ feed)) (l := t.drop i)).length_le
  rw [List.length_reverse, List.length_take] at hback
  rw [List.length_drop] at hon
  rw [lineFrom_eq, lineTo_eq]
  omega

/-- **There is a line around every offset.** -/
theorem isSome_lineAround? (feed : α) (t : List α) (offset : Int) :
    (lineAround? feed t offset).isSome := by
  unfold lineAround?
  split
  · obtain ⟨hfrom, hto, hend⟩ := lineFrom_le_lineTo_le feed (show offset.toNat ≤ t.length by omega)
    rw [slice?_of_le (Nat.le_trans hfrom hto) hend]
    rfl
  · rfl

end Line

/-- The line of a text that an offset is on. -/
def lineAt (t : Text) (offset : Int) : Text :=
  (lineAround? '\n' t offset).get (isSome_lineAround? '\n' t offset)

/-! ## Printing -/

/-- The widest padding that can be asked for: a code point takes four bytes, and there are 2^48
bytes to hold them. -/
def widestPadding : Int := 0x400000000000

/-- What stands in front of a caret at the given column under a line: a tab under each tab and a
space under everything else. It is never longer than the line. -/
def caretPadding (line : Text) (column : Int) : Text :=
  (line.take (column - 1).toNat).map fun c => if c = '\t' then '\t' else ' '

namespace Diagnostic

/-- The first line: file name, place, severity and message. -/
def header (d : Diagnostic) (file : String) : String :=
  file ++ ":" ++ toString d.span.line ++ ":" ++ toString d.span.column ++ ": "
    ++ d.severity.name ++ ": " ++ d.message ++ "\n"

/-- Prints a diagnostic about a text: the header, the line, the caret and the notes, one call
each. -/
def print (d : Diagnostic) (file : String) (source : Text) : Writing Unit := do
  Writing.write (d.header file)
  let line := lineAt source d.span.start
  Writing.write ("    " ++ String.ofList line ++ "\n")
  if d.span.column < 0 ∨ widestPadding < d.span.column then throw .paddingOutOfRange
  Writing.write ("    " ++ String.ofList (caretPadding line d.span.column) ++ "^\n")
  Writing.each (fun note => Writing.write ("    note: " ++ note ++ "\n")) d.notes

end Diagnostic

end Nesting
