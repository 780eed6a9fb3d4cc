import Nesting.Config.Value
import Nesting.Encoding.Utf8
import Nesting.Text.Reading

/-!
# Configurations in TOML

The file is a list of lines: a key and a value, the header of a table, the header of a further item
of a list of tables, or nothing. A key is a path, and the tables along it come into being with it.
What has a place is never replaced: a second value for a key, a header for a table that has one, a
key that leads through a value or into a table that a header has set apart are all errors.

Integers are those of 64 bits; outside of base ten they have no sign. Zeros in front of a decimal
number are an error, and so is an underscore that is not between two digits. Dates have four digits
for the year and two for everything else up to the second; a zone makes a moment of a date and a
time.
-/

namespace Nesting.Toml

open Reading

/-! ## Blanks, comments and ends of lines -/

/-- White space within a line. -/
def isBlankChar (c : Char) : Bool :=
  c = ' ' || c = '\t'

/-- Whether a character is a control, which may stand nowhere but as a tab or at the end of a
line. -/
def isControl (c : Char) : Bool :=
  (c.toNat < 0x20 && c ≠ '\t') || c.toNat = 0x7f

/-- Drops white space within a line. -/
def blanks : Reading Unit :=
  skipWhile isBlankChar

/-- Reads the end of a line, or the end of the text. -/
def lineEnd : Reading Unit := do
  unless (← get) = [] do
    let _ ← charIfThere '\r'
    char '\n'

/-- Drops a comment, if there is one. -/
def comment : Reading Unit := do
  if ← charIfThere '#' then skipWhile fun c => !isControl c

/-- Reads all that may stand behind something in its line. -/
def restOfLine : Reading Unit := do
  blanks
  comment
  lineEnd

/-- Drops blanks, comments and ends of lines. -/
def gap : Reading Unit :=
  loop
    (fun _ => do
      blanks
      comment
      match ← peek with
      | some '\n' | some '\r' => do lineEnd; pure (.inl ())
      | _ => pure (.inr ()))
    ()

/-! ## Texts -/

/-- The character with a code of the given number of hexadecimal digits. -/
def code (width : Nat) : Reading Char := do
  let t ← get
  let spelt := t.take width
  set (t.drop width)
  guard (spelt.length = width && spelt.all fun c => (Literal.digit? 16 c).isSome)
  let n := spelt.foldl (fun n c => n * 16 + (Literal.digit? 16 c).getD 0) 0
  if n.isValidChar then pure (Char.ofNat n) else failure

/-- The character of an escape, behind its backslash. -/
def escaped : Reading Char := do
  match ← next with
  | 'b' => pure '\x08'
  | 't' => pure '\t'
  | 'n' => pure '\n'
  | 'f' => pure '\x0c'
  | 'r' => pure '\r'
  | '"' => pure '"'
  | '\\' => pure '\\'
  | 'e' => pure '\x1b'
  | 'u' => code 4
  | 'U' => code 8
  | _ => failure

/-- A text on one line between two quotes of the given kind, behind the first one. Only double
quotes know escapes. -/
def lineText (quote : Char) : Reading String :=
  loop
    (fun taken => do
      let c ← next
      if c = quote then pure (.inr (String.ofList taken.reverse))
      else if c = '\\' && quote = '"' then pure (.inl ((← escaped) :: taken))
      else if isControl c then failure
      else pure (.inl (c :: taken)))
    []

/-- Drops white space with an end of line in it, behind a backslash at the end of a line. -/
def continuation : Reading Unit := do
  blanks
  let _ ← charIfThere '\r'
  char '\n'
  skipWhile fun c => isBlankChar c || c = '\n' || c = '\r'

/-- A text of many lines between triple quotes of the given kind, behind the first ones. Up to two
quotes in front of the closing ones belong to the text. -/
def linesText (quote : Char) : Reading String := do
  let closing := String.ofList [quote, quote, quote]
  unless ← wordIfThere "\r\n" do let _ ← charIfThere '\n'
  loop
    (fun taken => do
      if ← wordIfThere closing then
        let one := if ← charIfThere quote then [quote] else []
        let two := if one ≠ [] && (← charIfThere quote) then [quote] else []
        pure (.inr (String.ofList (two ++ one ++ taken).reverse))
      else
        let c ← next
        if c = '\\' && quote = '"' then
          match (← peek) with
          | some ' ' | some '\t' | some '\n' | some '\r' => do continuation; pure (.inl taken)
          | _ => pure (.inl ((← escaped) :: taken))
        else if c = '\r' then
          char '\n'
          pure (.inl ('\n' :: c :: taken))
        else if isControl c && c ≠ '\n' then failure
        else pure (.inl (c :: taken)))
    []

/-- A text in quotes of either kind. -/
def text (quote : Char) : Reading String := do
  char quote
  if ← wordIfThere (String.ofList [quote, quote]) then linesText quote else lineText quote

/-! ## Keys -/

/-- Whether a character may stand in a key without quotes. -/
def isBare (c : Char) : Bool :=
  c.isAlphanum || c = '_' || c = '-'

/-- One key of a path. -/
def keyPart : Reading String := do
  match ← peek with
  | some '"' => do char '"'; lineText '"'
  | some '\'' => do char '\''; lineText '\''
  | _ => do
    let bare ← takeWhile isBare
    guard (bare ≠ [])
    pure (String.ofList bare)

/-- A path of keys with dots between them. -/
def keyPath : Reading (List String) :=
  loop
    (fun path => do
      let path := path ++ [← keyPart]
      blanks
      if ← charIfThere '.' then
        blanks
        pure (.inl path)
      else pure (.inr path))
    []

/-! ## Numbers -/

/-- The digits of a row, without the underscores between them. -/
def plainDigits? (isDigit : Char → Bool) (t : Text) : Option Text :=
  let digits := t.filter (· ≠ '_')
  if digits ≠ [] && digits.all isDigit && Literal.separated isDigit .other t then some digits
  else none

/-- The value of a row of digits of a base, in 63 bits. -/
def marked? (base : Nat) (t : Text) : Option Value := do
  let digits ← plainDigits? (fun c => (Literal.digit? base c).isSome) t
  let n ← (Literal.readDigits base 0 digits).toOption
  let w ← (Literal.signed false n).toOption
  pure (.integer w)

/-- The value of decimal digits with a sign or without one. -/
def decimal? (t : Text) : Option Value := do
  let (negative, unsigned) := Literal.takeSign t
  let whole := unsigned.takeWhile fun (c : Char) => c.isDigit || c = '_'
  let behind := unsigned.drop whole.length
  let digits ← plainDigits? Char.isDigit whole
  guard (digits.length = 1 || digits.head? ≠ some '0')
  if behind = [] then
    let n ← (Literal.readDigits 10 0 digits).toOption
    let w ← (Literal.signed negative n).toOption
    pure (.integer w)
  else
    let (fraction, tail) :=
      match behind with
      | '.' :: rest =>
        let fraction := rest.takeWhile fun (c : Char) => c.isDigit || c = '_'
        (some fraction, rest.drop fraction.length)
      | _ => (none, behind)
    let fractionDigits ← fraction.elim (some []) (plainDigits? Char.isDigit)
    let exponent ←
      match tail with
      | [] => some []
      | c :: rest =>
        let sign := rest.takeWhile fun c => c = '+' || c = '-'
        (plainDigits? Char.isDigit (rest.drop sign.length)).map (c :: sign ++ ·)
    let point := if fraction.isSome then ['.'] else []
    let x ← (Decimal.read? (digits ++ point ++ fractionDigits ++ exponent)).bind fun d =>
      Binary64.ofDecimal { d with negative }
    pure (.float x)

/-- The value of a word without quotes. -/
def bare? (t : Text) : Option Value :=
  match String.ofList t with
  | "true" => some (.truth true)
  | "false" => some (.truth false)
  | "inf" | "+inf" => some (.float (.infinite false))
  | "-inf" => some (.float (.infinite true))
  | "nan" | "+nan" | "-nan" => some (.float .nan)
  | _ =>
    match t with
    | '0' :: 'x' :: digits => marked? 16 digits
    | '0' :: 'o' :: digits => marked? 8 digits
    | '0' :: 'b' :: digits => marked? 2 digits
    | _ => decimal? t

/-! ## Dates -/

/-- Whether the value that a text begins with is a date or a time: four digits and a hyphen, or two
digits and a colon. -/
def beginsDate (t : Text) : Bool :=
  match (t.takeWhile Char.isDigit).length, (t.dropWhile Char.isDigit).head? with
  | 4, some '-' | 2, some ':' => true
  | _, _ => false

/-- Whether a character may stand in a date or a time. -/
def isDateChar (c : Char) : Bool :=
  c.isDigit || "-:.+TtZz".toList.contains c

/-- A date, a time or both, as it is written. One space may stand between a date and a time. -/
def dateWord : Reading Text := do
  let front ← takeWhile isDateChar
  match ← get with
  | ' ' :: c :: rest =>
    if c.isDigit then
      set (c :: rest)
      pure (front ++ ' ' :: (← takeWhile isDateChar))
    else pure front
  | _ => pure front

/-- The number that exactly so many decimal digits spell. -/
def fixed (width : Nat) : Reading Nat := do
  let t ← get
  let digits := t.take width
  set (t.drop width)
  guard (digits.length = width && digits.all Char.isDigit)
  pure (Decimal.natOfDigits digits)

/-- Such a number, with a greatest value. -/
def upTo (greatest width : Nat) : Reading Nat := do
  let n ← fixed width
  guard (n ≤ greatest)
  pure n

/-- A date. -/
def date : Reading Date := do
  let year ← fixed 4
  char '-'
  let month ← fixed 2
  char '-'
  let day ← fixed 2
  let d : Date := ⟨year, month, day⟩
  guard d.isValid
  pure d

/-- A time of day. Of a fraction the first nine digits count. -/
def time : Reading TimeOfDay := do
  let hour ← upTo 23 2
  char ':'
  let minute ← upTo 59 2
  char ':'
  let second ← upTo 60 2
  if ← charIfThere '.' then
    let digits ← takeWhile Char.isDigit
    guard (digits ≠ [])
    let kept := digits.take 9
    let nanosecond := Decimal.natOfDigits (kept ++ List.replicate (9 - kept.length) '0')
    pure { hour, minute, second, nanosecond, precision := kept.length }
  else pure { hour, minute, second }

/-- A time zone. -/
def zone : Reading Zone := do
  let sign ← next
  if sign = 'Z' || sign = 'z' then pure .utc
  else
    guard (sign = '+' || sign = '-')
    let hours ← upTo 23 2
    char ':'
    let minutes ← upTo 59 2
    let total : Int := hours * 60 + minutes
    pure (if total = 0 then .utc else .offset (if sign = '-' then -total else total))

/-- A date with a time and a zone, or with a time only, or by itself. -/
def dated : Reading CalendarValue := do
  let d ← date
  match ← peek with
  | none => pure (.date d)
  | some c => do
    guard (c = 'T' || c = 't' || c = ' ')
    let _ ← next
    let t ← time
    match ← peek with
    | none => pure (.dateTime d t)
    | some _ => do
      let m : Moment := ⟨d, t, ← zone⟩
      pure (.moment m.normal)

/-- The date or the time that a text spells. -/
def calendar? (t : Text) : Option CalendarValue :=
  (dated.whole t).orElse fun _ => (time.whole t).map .time

/-! ## The tree of tables -/

/-- How a table came into being. -/
inductive Origin where
  /-- By the header of a table within it. -/
  | implied
  /-- By its own header. -/
  | header
  /-- By a key that leads into it. -/
  | key
  deriving DecidableEq

/-- What is at a place. -/
inductive Node where
  | value (v : Value)
  | table (origin : Origin) (fields : List (String × Node))
  | tables (items : List (List (String × Node)))
  deriving Inhabited

/-- The fields of a table, the earliest first. -/
abbrev Fields := List (String × Node)

namespace Fields

/-- The fields with another node under a key that is there, or a new one. -/
def insert (key : String) (node : Node) : Fields → Fields
  | [] => [(key, node)]
  | field :: rest => if field.1 = key then (key, node) :: rest else field :: insert key node rest

/-- Puts a value at the end of a path. -/
def put (v : Value) : List String → Fields → Option Fields
  | [], _ => none
  | [key], fields =>
    match fields.lookup key with
    | none => some (insert key (.value v) fields)
    | some _ => none
  | key :: path, fields =>
    match fields.lookup key with
    | none => (put v path []).map fun inner => insert key (.table .key inner) fields
    | some (.table .header _) => none
    | some (.table origin inner) =>
      (put v path inner).map fun inner => insert key (.table origin inner) fields
    | some _ => none

/-- Changes what a header leads to. Tables on the way come into being; of a list of tables it is the
last one that a path leads through. -/
def changeAt (change : Option Node → Option Node) : List String → Fields → Option Fields
  | [], _ => none
  | [key], fields => (change (fields.lookup key)).map fun node => insert key node fields
  | key :: path, fields =>
    match fields.lookup key with
    | none => (changeAt change path []).map fun inner => insert key (.table .implied inner) fields
    | some (.table origin inner) =>
      (changeAt change path inner).map fun inner => insert key (.table origin inner) fields
    | some (.tables items) =>
      match items.getLast? with
      | none => none
      | some last =>
        (changeAt change path last).map fun inner =>
          insert key (.tables (items.dropLast ++ [inner])) fields
    | some (.value _) => none

/-- Declares the table that a header names. -/
def declare : List String → Fields → Option Fields :=
  changeAt fun
    | none => some (.table .header [])
    | some (.table .implied fields) => some (.table .header fields)
    | some _ => none

/-- Declares a further item of the list of tables that a header names. -/
def declareItem : List String → Fields → Option Fields :=
  changeAt fun
    | none => some (.tables [[]])
    | some (.tables items) => some (.tables (items ++ [[]]))
    | some _ => none

/-- Puts a value at the end of a path within the table that a header names; without a header it is
the outermost one. -/
def putWithin (header path : List String) (v : Value) (fields : Fields) : Option Fields :=
  if header = [] then put v path fields
  else
    changeAt
      (fun
        | some (.table origin inner) => (put v path inner).map (.table origin ·)
        | some (.tables items) =>
          (items.getLast?).bind fun last =>
            (put v path last).map fun inner => .tables (items.dropLast ++ [inner])
        | _ => none)
      header fields

end Fields

mutual

/-- The value that a node stands for. -/
def Node.toValue : Node → Value
  | .value v => v
  | .table _ fields => .table (Table.ofFields (fieldValues fields))
  | .tables items => .list (itemValues items)

/-- The fields of a table as values. -/
def fieldValues : List (String × Node) → List (String × Value)
  | [] => []
  | (key, node) :: rest => (key, node.toValue) :: fieldValues rest

/-- The items of a list of tables as values. -/
def itemValues : List (List (String × Node)) → List Value
  | [] => []
  | fields :: rest => .table (Table.ofFields (fieldValues fields)) :: itemValues rest

end

/-! ## Values -/

/-- A step that can be refused. -/
def orFail {α : Type} : Option α → Reading α
  | some a => pure a
  | none => failure

/-- Whether a character ends a word without quotes. -/
def endsBare (c : Char) : Bool :=
  isBlankChar c || c = '\n' || c = '\r' || c = ',' || c = ']' || c = '\x7d' || c = '#'

/-- Items with commas between them, up to a bracket. A comma may stand in front of the bracket. -/
def items (item : Reading Value) : Reading (List Value) :=
  loop
    (fun taken => do
      gap
      if ← charIfThere ']' then pure (.inr taken)
      else
        let taken := taken ++ [← item]
        gap
        match ← next with
        | ',' => pure (.inl taken)
        | ']' => pure (.inr taken)
        | _ => failure)
    []

/-- A key, the sign of equality and a value. -/
def keyValue (value : Reading Value) : Reading (List String × Value) := do
  let path ← keyPath
  char '='
  blanks
  pure (path, ← value)

/-- The fields of a table on one line, behind its first brace. -/
def inlineFields (value : Reading Value) : Reading Fields := do
  blanks
  if ← charIfThere '\x7d' then pure []
  else
    let entry : Reading (List String × Value) := do
      blanks
      let e ← keyValue value
      blanks
      pure e
    let entries ← commaSeparated entry '\x7d'
    match entries.foldlM (fun fields (e : List String × Value) => Fields.put e.2 e.1 fields) [] with
    | some fields => pure fields
    | none => failure

/-- A value with at most the given number of values around one another. -/
def value : Nat → Reading Value
  | 0 => failure
  | depth + 1 => do
    match ← peek with
    | some '"' => .text <$> text '"'
    | some '\'' => .text <$> text '\''
    | some '[' => do
      char '['
      .list <$> items (value depth)
    | some '\x7b' => do
      char '\x7b'
      let fields ← inlineFields (value depth)
      pure (Node.table .header fields).toValue
    | _ => do
      if beginsDate (← get) then .calendar <$> orFail (calendar? (← dateWord))
      else orFail (bare? (← takeWhile fun c => !endsBare c))

/-! ## Documents -/

/-- What has been read: the header that is in force, and all fields. -/
structure Progress where
  header : List String := []
  fields : Fields := []

/-- Reads one line. -/
def line (p : Progress) : Reading Progress := do
  blanks
  match ← peek with
  | none | some '\n' | some '\r' | some '#' => do
    restOfLine
    pure p
  | some '[' => do
    char '['
    let isItem ← charIfThere '['
    blanks
    let header ← keyPath
    char ']'
    if isItem then char ']'
    restOfLine
    let declare := if isItem then Fields.declareItem else Fields.declare
    pure { header, fields := ← orFail (declare header p.fields) }
  | some _ => do
    let (path, v) ← keyValue (value ((← get).length + 1))
    restOfLine
    pure { p with fields := ← orFail (p.fields.putWithin p.header path v) }

/-- Reads all lines. -/
def lines : Reading Fields :=
  loop
    (fun p => do
      if (← get) = [] then pure (.inr p.fields) else pure (.inl (← line p)))
    ({} : Progress)

/-- The configuration that a file holds. -/
def document (bytes : Bytes) : Option Table := do
  let t ← Utf8.decode? bytes
  let fields ← lines.whole t
  pure (Table.ofFields (fieldValues fields))

end Nesting.Toml
