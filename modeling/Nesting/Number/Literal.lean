import Nesting.Text.Raw
import Nesting.Word

/-!
# Literals

How a setting spells an integer or a truth value. An integer has an optional sign and a base: two,
eight or sixteen behind `0b`, `0o` and `0x`, eight behind any other leading zero, and ten otherwise.
An underscore may stand between two digits, and between the mark of the base and the first digit. A
literal that is misspelt is told from one whose value has no room in 64 bits. Digits are read from
the left, so what counts is which of the two shows first.
-/

namespace Nesting

/-- Why a literal has no value. -/
inductive LiteralFault where
  | malformed
  | outOfRange
  deriving DecidableEq

/-- The wording of a literal's fault. -/
def LiteralFault.message : LiteralFault → String
  | .malformed => "invalid syntax"
  | .outOfRange => "value out of range"

/-- What a literal was read as. -/
inductive LiteralKind where
  | integer
  | truth
  deriving DecidableEq

/-- A literal that could not be read. -/
structure LiteralError where
  kind : LiteralKind
  text : RawText
  fault : LiteralFault
  deriving DecidableEq

/-- The wording of a literal's error. -/
def LiteralError.message (e : LiteralError) : String :=
  (match e.kind with
    | .integer => "strconv.ParseInt"
    | .truth => "strconv.ParseBool")
    ++ ": parsing " ++ e.text.quoted ++ ": " ++ e.fault.message

namespace Literal

/-! ## Digits -/

/-- The value of a digit; after nine come the letters, in either case. -/
def digitValue? (c : Char) : Option Nat :=
  if '0' ≤ c ∧ c ≤ '9' then some (c.toNat - '0'.toNat)
  else if 'a' ≤ c ∧ c ≤ 'z' then some (c.toNat - 'a'.toNat + 10)
  else if 'A' ≤ c ∧ c ≤ 'Z' then some (c.toNat - 'A'.toNat + 10)
  else none

/-- The value of a digit of a base. -/
def digit? (base : Nat) (c : Char) : Option Nat :=
  (digitValue? c).filter (· < base)

/-- Goes on reading digits of a base behind the value `n`, past underscores. -/
def readDigits (base : Nat) (n : Nat) : Text → Except LiteralFault Nat
  | [] => .ok n
  | c :: rest =>
    if c = '_' then readDigits base n rest
    else
      match digit? base c with
      | none => .error .malformed
      | some d =>
        if n * base + d < Word.count then readDigits base (n * base + d) rest
        else .error .outOfRange

/-! ## Separators -/

/-- What stands before a character, as far as an underscore is concerned. -/
inductive Before where
  | digit
  | separator
  | other
  deriving DecidableEq

/-- Whether every underscore stands between two digits. -/
def separated (isDigit : Char → Bool) (before : Before) : Text → Bool
  | [] => before ≠ .separator
  | c :: rest =>
    if isDigit c then separated isDigit .digit rest
    else if c = '_' then before = .digit && separated isDigit .separator rest
    else before ≠ .separator && separated isDigit .other rest

/-! ## Bases -/

/-- The base that a letter behind a leading zero stands for. -/
def markedBase? (c : Char) : Option Nat :=
  match c with
  | 'b' | 'B' => some 2
  | 'o' | 'O' => some 8
  | 'x' | 'X' => some 16
  | _ => none

/-- A magnitude apart from the mark of its base. -/
structure Spelling where
  base : Nat
  /-- Whether a letter marks the base; it counts as a digit for an underscore behind it. -/
  marked : Bool
  digits : Text

/-- The base of a magnitude and its digits. A leading zero is a mark, too, but it also is a digit. A
letter marks a base only if something follows it. -/
def spelling (t : Text) : Spelling :=
  match t with
  | '0' :: c :: d :: rest =>
    match markedBase? c with
    | some base => ⟨base, true, d :: rest⟩
    | none => ⟨8, false, t⟩
  | '0' :: _ => ⟨8, false, t⟩
  | _ => ⟨10, false, t⟩

/-- Whether the underscores of a magnitude are where they may be. -/
def Spelling.separated (s : Spelling) : Bool :=
  let isDigit (c : Char) := c.isDigit || (s.base = 16 && (digit? 16 c).isSome)
  Literal.separated isDigit (if s.marked then .digit else .other) s.digits

/-- The magnitude that a text without a sign spells. -/
def magnitude (t : Text) : Except LiteralFault Nat :=
  if t = [] then .error .malformed
  else
    let s := spelling t
    match readDigits s.base 0 s.digits with
    | .error fault => .error fault
    | .ok n => if s.separated then .ok n else .error .malformed

/-- The word with the given sign and magnitude. -/
def signed (negative : Bool) (n : Nat) : Except LiteralFault Int :=
  if negative then if -n < Word.least then .error .outOfRange else .ok (-n)
  else if Word.greatest < n then .error .outOfRange else .ok n

/-- Takes the sign off a text; `true` is minus. -/
def takeSign : Text → Bool × Text
  | '-' :: rest => (true, rest)
  | '+' :: rest => (false, rest)
  | t => (false, t)

/-- The 64-bit integer that a text spells. -/
def integer (t : Text) : Except LiteralFault Int :=
  let (negative, digits) := takeSign t
  match magnitude digits with
  | .error fault => .error fault
  | .ok n => signed negative n

end Literal

/-! ## Reading settings -/

/-- The integer that a setting spells. -/
def readInteger (r : RawText) : Except LiteralError Int :=
  match Literal.integer r.chars with
  | .ok n => .ok n
  | .error fault => .error ⟨.integer, r, fault⟩

/-- The truth value that a setting spells. -/
def readTruth (r : RawText) : Except LiteralError Bool :=
  if r.shown ∈ ["1", "t", "T", "TRUE", "true", "True"] then .ok true
  else if r.shown ∈ ["0", "f", "F", "FALSE", "false", "False"] then .ok false
  else .error ⟨.truth, r, .malformed⟩

end Nesting
