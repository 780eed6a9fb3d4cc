/-!
# Delimiters

Three pairs of characters delimit: parentheses, braces and square brackets. An opener is closed by
the closer of its own pair and by no other. `closing?` is the whole table; the kind of a character
follows from it.

Reports name delimiters by code point, and a report put together by hand may hold any number there.
`CodePoint.char?` gives the character that a number stands for, if it stands for one, and
`CodePoint.glyph` the character that is shown for it.
-/

namespace Nesting

/-- What a character is to the scan. -/
inductive Kind where
  /-- Neither an opener nor a closer. -/
  | notDelimiter
  /-- One of `(`, `{` and `[`. -/
  | opener
  /-- One of `)`, `}` and `]`. -/
  | closer
  deriving DecidableEq

/-- The closer that an opener asks for. -/
def closing? : Char → Option Char
  | '(' => some ')'
  | '{' => some '}'
  | '[' => some ']'
  | _ => none

/-- Whether a character closes one of the three pairs. -/
def isClosing : Char → Bool
  | ')' | '}' | ']' => true
  | _ => false

/-- The kind of a character. -/
def Kind.ofChar (c : Char) : Kind :=
  if (closing? c).isSome then .opener
  else if isClosing c then .closer
  else .notDelimiter

/-- The name of a kind. -/
def Kind.name : Kind → String
  | .notDelimiter => "NotDelimiter"
  | .opener => "Opener"
  | .closer => "Closer"

/-- The name of the kind with the given number; a number that no kind has is shown itself. -/
def Kind.nameOfNumber (n : Int) : String :=
  if n = 0 then Kind.notDelimiter.name
  else if n = 1 then Kind.opener.name
  else if n = 2 then Kind.closer.name
  else "Kind(" ++ toString n ++ ")"

/-- A code point as a number. Not every number is one of a character. -/
abbrev CodePoint := Int

namespace CodePoint

/-- The code point of a character. -/
def ofChar (c : Char) : CodePoint := c.toNat

/-- The character with the given code point: none for a surrogate or a number out of range. -/
def char? (n : CodePoint) : Option Char :=
  if h : 0 ≤ n ∧ n.toNat.isValidChar then some (Char.ofNatAux n.toNat h.2) else none

/-- The character that is shown for a number; `U+FFFD` where it stands for none. -/
def glyph (n : CodePoint) : Char :=
  (char? n).getD '\ufffd'

/-- The kind of the character that a number stands for. -/
def kind (n : CodePoint) : Kind :=
  ((char? n).map Kind.ofChar).getD .notDelimiter

/-- The code point of the closer that an opener asks for, and 0 for anything but an opener. -/
def closer (n : CodePoint) : CodePoint :=
  (((char? n).bind closing?).map ofChar).getD 0

@[simp] theorem char?_ofChar (c : Char) : char? (ofChar c) = some c := by
  unfold char? ofChar
  have h : 0 ≤ (c.toNat : Int) ∧ (c.toNat : Int).toNat.isValidChar :=
    ⟨Int.natCast_nonneg _, by rw [Int.toNat_natCast]; exact c.valid⟩
  rw [dif_pos h]
  congr 1

@[simp] theorem glyph_ofChar (c : Char) : glyph (ofChar c) = c := by
  simp [glyph]

end CodePoint

end Nesting
