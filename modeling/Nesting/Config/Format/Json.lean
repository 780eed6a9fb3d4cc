import Nesting.Config.Value
import Nesting.Encoding.Utf8
import Nesting.Text.Reading

/-!
# Configurations in JSON

The file is one object, or null. Every number is read in double precision, and one that is too large
for it is an error. A key may come twice; the last one counts. Bytes that are not UTF-8, and halves
of surrogate pairs in escapes, become replacement characters.
-/

namespace Nesting.Json

open Reading

/-- White space between the parts of a value. -/
def isSpace (c : Char) : Bool :=
  c = ' ' || c = '\t' || c = '\n' || c = '\r'

/-- Reads something with white space around it. -/
def spaced {α : Type} (reading : Reading α) : Reading α := do
  skipWhile isSpace
  let a ← reading
  skipWhile isSpace
  pure a

/-! ## Texts -/

/-- The number that four hexadecimal digits spell. -/
def unit : Reading Nat := do
  let digit : Reading Nat := do
    let c ← next
    match Literal.digit? 16 c with
    | some d => pure d
    | none => failure
  let a ← digit
  let b ← digit
  let c ← digit
  let d ← digit
  pure (((a * 16 + b) * 16 + c) * 16 + d)

/-- The character that stands for what is none. -/
def replacement : Char := '\ufffd'

/-- The character of a number behind `\u`. The first half of a pair takes the second one with it. -/
def escapedUnit : Reading Char := do
  let high ← unit
  if 0xd800 ≤ high && high < 0xdc00 then
    let ahead ← get
    match (do word "\\u"; unit : Reading Nat).run ahead with
    | some (low, rest) =>
      if 0xdc00 ≤ low && low < 0xe000 then
        set rest
        pure (Char.ofNat (0x10000 + (high - 0xd800) * 0x400 + (low - 0xdc00)))
      else pure replacement
    | none => pure replacement
  else if 0xdc00 ≤ high && high < 0xe000 then pure replacement
  else pure (Char.ofNat high)

/-- The character of an escape, behind its backslash. -/
def escaped : Reading Char := do
  match ← next with
  | '"' => pure '"'
  | '\\' => pure '\\'
  | '/' => pure '/'
  | 'b' => pure '\x08'
  | 'f' => pure '\x0c'
  | 'n' => pure '\n'
  | 'r' => pure '\r'
  | 't' => pure '\t'
  | 'u' => escapedUnit
  | _ => failure

/-- A text in quotes. -/
def string : Reading String := do
  char '"'
  loop
    (fun taken => do
      match ← next with
      | '"' => pure (.inr (String.ofList taken.reverse))
      | '\\' => pure (.inl ((← escaped) :: taken))
      | c => if c.toNat < 0x20 then failure else pure (.inl (c :: taken)))
    []

/-! ## Numbers -/

/-- Reads at least one digit. -/
def digits : Reading Unit := do
  guard ((← takeWhile Char.isDigit) ≠ [])

/-- The form of a number: no zero in front, digits around the point, and digits in the exponent. -/
def numberForm : Reading Unit := do
  let _ ← charIfThere '-'
  unless ← charIfThere '0' do digits
  if ← charIfThere '.' then digits
  if (← peek) = some 'e' || (← peek) = some 'E' then
    let _ ← next
    unless ← charIfThere '+' do let _ ← charIfThere '-'
    digits

/-- A number. -/
def number : Reading Value := do
  let t ← get
  numberForm
  let spelt := t.take (t.length - (← get).length)
  match (Decimal.read? spelt).bind Binary64.ofDecimal with
  | some x => pure (.float x)
  | none => failure

/-! ## Values -/

/-- A value that holds no others. -/
def scalar : Reading Value := do
  match ← peek with
  | some '"' => .text <$> string
  | some 't' => do word "true"; pure (.truth true)
  | some 'f' => do word "false"; pure (.truth false)
  | some 'n' => do word "null"; pure .null
  | _ => number

/-- How deep values may be nested. -/
def maxDepth : Nat := 10000

/-- A value of at most the given depth. -/
def value : Nat → Reading Value
  | 0 => scalar
  | depth + 1 => do
    if ← charIfThere '[' then
      skipWhile isSpace
      if ← charIfThere ']' then pure (.list [])
      else .list <$> commaSeparated (spaced (value depth)) ']'
    else if ← charIfThere '\x7b' then
      skipWhile isSpace
      if ← charIfThere '\x7d' then pure (.table [])
      else
        let field : Reading (String × Value) := do
          let key ← spaced string
          char ':'
          pure (key, ← spaced (value depth))
        .table <$> Table.ofFields <$> commaSeparated field '\x7d'
    else scalar

/-- The configuration that a file holds. -/
def document (bytes : Bytes) : Option Table :=
  match (spaced (value maxDepth)).whole (Utf8.decodeLossy bytes) with
  | some (.table fields) => some fields
  | some .null => some []
  | _ => none

end Nesting.Json
