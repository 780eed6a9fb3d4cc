import Nesting.Config.Format.Yaml.Node
import Nesting.Config.Value
import Nesting.Text.Reading

/-!
# What scalars of YAML mean

A scalar in quotes and a block are texts. What a plain one means shows in its spelling: it may be
null, a truth value, an integer, a number with a fraction, a moment, and is a text if it is none of
these. A tag of a standard type demands that the spelling is of that type; an integer will do for a
number with a fraction. Behind any other tag, a scalar is a text.
-/

namespace Nesting.Yaml

open Reading

/-! ## Numbers -/

/-- Plain scalars with a meaning of their own. -/
def namedValue? : String → Option (Tag × Value)
  | "" | "~" | "null" | "Null" | "NULL" => some (.null, .null)
  | "true" | "True" | "TRUE" => some (.truth, .truth true)
  | "false" | "False" | "FALSE" => some (.truth, .truth false)
  | ".nan" | ".NaN" | ".NAN" => some (.float, .float .nan)
  | ".inf" | ".Inf" | ".INF" | "+.inf" | "+.Inf" | "+.INF" =>
    some (.float, .float (.infinite false))
  | "-.inf" | "-.Inf" | "-.INF" => some (.float, .float (.infinite true))
  | _ => none

/-- The number with a fraction or an exponent that a text spells. -/
def float? (t : Text) : Option (Tag × Value) :=
  ((Decimal.read? t).bind Binary64.ofDecimal).map fun x => (.float, .float x)

/-- The integer that a text without underscores spells: one with a sign in 64 bits, or one without
in 64 bits. -/
def integer? (t : Text) : Option (Tag × Value) :=
  match Literal.integer t with
  | .ok n => some (.integer, .integer n)
  | .error _ => (Literal.magnitude t).toOption.map fun n => (.integer, .integer n)

/-- The integer that digits of a base spell, with a sign or without one. -/
def digits? (base : Nat) (t : Text) : Option (Tag × Value) :=
  let (negative, digits) := Literal.takeSign t
  if digits = [] then none
  else
    match Literal.readDigits base 0 digits with
    | .error _ => none
    | .ok n => (Literal.signed negative n).toOption.map fun n => (.integer, .integer n)

/-- The integer that is spelt with its sign behind the mark of its base. -/
def innerSign? : Text → Option (Tag × Value)
  | '0' :: 'b' :: rest => digits? 2 rest
  | '0' :: 'o' :: rest => digits? 8 rest
  | _ => none

/-- The number that a text spells that begins with a digit or a sign. Underscores do not count. -/
def number? (t : Text) : Option (Tag × Value) :=
  let t := t.filter (· ≠ '_')
  ((integer? t).orElse fun _ => float? t).orElse fun _ => innerSign? t

/-- The number that a text spells that begins with a point. Underscores stand between digits. -/
def pointed? (t : Text) : Option (Tag × Value) :=
  if Literal.separated Char.isDigit .other t then float? (t.filter (· ≠ '_')) else none

/-! ## Moments -/

/-- A number of one digit or two, below a bound. -/
def shortNumber (bound : Nat) : Reading Nat := do
  let digits := ((← get).take 2).takeWhile Char.isDigit
  guard (digits ≠ [])
  set ((← get).drop digits.length)
  let n := Decimal.natOfDigits digits
  guard (n < bound)
  pure n

/-- A number of exactly two digits, up to a greatest one. -/
def twoDigits (greatest : Nat) : Reading Nat := do
  let digits := (← get).take 2
  guard (digits.length = 2 && digits.all Char.isDigit)
  set ((← get).drop 2)
  let n := Decimal.natOfDigits digits
  guard (n ≤ greatest)
  pure n

/-- A date. The year has four digits. -/
def date : Reading Date := do
  let year ← takeWhile Char.isDigit
  guard (year.length = 4)
  char '-'
  let month ← shortNumber 13
  char '-'
  let day ← shortNumber 32
  let d : Date := ⟨Decimal.natOfDigits year, month, day⟩
  guard d.isValid
  pure d

/-- The nanoseconds in a fraction of a second, if there is one. Of its digits nine count. -/
def fraction : Reading Nat := do
  match ← get with
  | c :: d :: _ =>
    if (c = '.' || c = ',') && d.isDigit then
      let _ ← next
      let kept := (← takeWhile Char.isDigit).take 9
      pure (Decimal.natOfDigits (kept ++ List.replicate (9 - kept.length) '0'))
    else pure 0
  | _ => pure 0

/-- A time of day. -/
def timeOfDay : Reading TimeOfDay := do
  let hour ← shortNumber 24
  char ':'
  let minute ← shortNumber 60
  char ':'
  let second ← shortNumber 60
  pure { hour, minute, second, nanosecond := ← fraction }

/-- A time zone. -/
def zone : Reading Zone := do
  match ← next with
  | 'Z' => pure .utc
  | sign => do
    guard (sign = '+' || sign = '-')
    let hours ← twoDigits 24
    char ':'
    let minutes ← twoDigits 60
    let total : Int := hours * 60 + minutes
    pure (if total = 0 then .here else .offset (if sign = '-' then -total else total))

/-- A date, a date and a time of day with spaces between them, or a date and a time of day in a
zone. -/
def moment : Reading Moment := do
  let d ← date
  match ← peek with
  | none => pure ⟨d, { hour := 0, minute := 0, second := 0 }, .utc⟩
  | some ' ' => do
    skipWhile (· = ' ')
    pure ⟨d, ← timeOfDay, .utc⟩
  | some c => do
    guard (c = 'T' || c = 't')
    let _ ← next
    let t ← timeOfDay
    pure ⟨d, t, ← zone⟩

/-- The moment that a text spells. -/
def moment? (t : Text) : Option (Tag × Value) :=
  (moment.whole t).map fun m => (.moment, .calendar (.moment m))

/-! ## Bytes -/

/-- The value of a digit of base 64. -/
def digit64? (c : Char) : Option Nat :=
  if 'A' ≤ c ∧ c ≤ 'Z' then some (c.toNat - 'A'.toNat)
  else if 'a' ≤ c ∧ c ≤ 'z' then some (c.toNat - 'a'.toNat + 26)
  else if c.isDigit then some (c.toNat - '0'.toNat + 52)
  else if c = '+' then some 62
  else if c = '/' then some 63
  else none

/-- The bytes that groups of four digits of base 64 spell. Signs of equality fill up the last group
to four. -/
def bytes64? : Text → Option Bytes
  | [] => some []
  | [a, b, '=', '='] => do
    let n := (← digit64? a) * 64 + (← digit64? b)
    pure [UInt8.ofNat (n / 16)]
  | [a, b, c, '='] => do
    let n := ((← digit64? a) * 64 + (← digit64? b)) * 64 + (← digit64? c)
    pure [UInt8.ofNat (n / 1024), UInt8.ofNat (n / 4)]
  | a :: b :: c :: d :: rest => do
    let n := (((← digit64? a) * 64 + (← digit64? b)) * 64 + (← digit64? c)) * 64 + (← digit64? d)
    pure (UInt8.ofNat (n / 65536) :: UInt8.ofNat (n / 256) :: UInt8.ofNat n :: (← bytes64? rest))
  | _ => none

/-- The bytes that a text spells in base 64. Ends of lines do not count. -/
def binary? (t : Text) : Option Value :=
  (bytes64? (t.filter fun c => c ≠ '\n' && c ≠ '\r')).map fun bytes => .text ⟨bytes⟩

/-! ## Scalars -/

/-- A text as a value. -/
def textValue (t : Text) : Value :=
  .text (RawText.ofText t)

/-- What the spelling of a plain scalar means; moments count only if they may. -/
def spelt (withMoments : Bool) (t : Text) : Tag × Value :=
  match namedValue? (String.ofList t) with
  | some named => named
  | none =>
    let found :=
      match t with
      | '.' :: _ => pointed? t
      | c :: _ =>
        if c.isDigit || c = '+' || c = '-' then
          (if withMoments then moment? t else none).orElse fun _ => number? t
        else none
      | [] => none
    found.getD (.text, textValue t)

/-- The word for a place where the fields of another table go. -/
def mergeWord : Text := "<<".toList

namespace Scalar

/-- The type of a scalar. -/
def type (s : Scalar) : Tag :=
  match s.tag with
  | some t => t
  | none =>
    if !s.isPlain then .text
    else if s.text = mergeWord then .merge
    else (spelt true s.text).1

/-- Whether a scalar as a key says that the fields of another table go here. -/
def isMerge (s : Scalar) : Bool :=
  s.text = mergeWord && s.type = .merge

/-- The value of a scalar, unless it is not what its tag says. -/
def value? (s : Scalar) : Option Value :=
  match s.tag with
  | none => some (if s.isPlain then (spelt true s.text).2 else textValue s.text)
  | some .text | some .merge | some .other => some (textValue s.text)
  | some .binary => binary? s.text
  | some t =>
    match spelt (t = .moment) s.text, t with
    | (.integer, .integer n), .float =>
      if n ≤ Word.greatest then (Binary64.ofDecimal ⟨n < 0, n.natAbs, 0⟩).map .float else none
    | (found, v), t => if found = t then some v else none

end Scalar

end Nesting.Yaml
