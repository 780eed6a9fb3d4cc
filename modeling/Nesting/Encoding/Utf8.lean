import Nesting.Text

/-!
# UTF-8

A character is one byte, or a lead byte and one to three bytes that continue it. The number that the
bytes spell has to need all of them, and it has to be the code of a character; so overlong forms,
surrogates and numbers above `U+10FFFF` are not characters. A byte that begins no character is
invalid by itself, and reading goes on with the byte behind it.
-/

namespace Nesting.Utf8

/-- What the first byte of a character says. -/
structure Lead where
  /-- The bits that it holds itself. -/
  bits : Nat
  /-- How many bytes continue it. -/
  count : Nat
  /-- The least code that needs that many. -/
  least : Nat

/-- What a byte says if a character begins with it. -/
def lead? (b : UInt8) : Option Lead :=
  if b < 0x80 then some ⟨b.toNat, 0, 0⟩
  else if b < 0xc0 then none
  else if b < 0xe0 then some ⟨b.toNat - 0xc0, 1, 0x80⟩
  else if b < 0xf0 then some ⟨b.toNat - 0xe0, 2, 0x800⟩
  else if b < 0xf8 then some ⟨b.toNat - 0xf0, 3, 0x10000⟩
  else none

/-- The six bits that a byte adds to a character. -/
def continuation? (b : UInt8) : Option Nat :=
  if 0x80 ≤ b ∧ b < 0xc0 then some (b.toNat - 0x80) else none

/-- Adds the bits of the given number of bytes to the bits that are there. -/
def extend? : Nat → Nat → Bytes → Option (Nat × Bytes)
  | 0, bits, rest => some (bits, rest)
  | _ + 1, _, [] => none
  | count + 1, bits, b :: rest =>
    match continuation? b with
    | none => none
    | some more => extend? count (bits * 64 + more) rest

/-- The character with the given code, unless the code is less than the form it was spelt in
needs. -/
def scalar? (least n : Nat) : Option Char :=
  if h : least ≤ n ∧ n.isValidChar then some (Char.ofNatAux n h.2) else none

/-- The character that a byte sequence begins with, and the bytes behind it. -/
def head? : Bytes → Option (Char × Bytes)
  | [] => none
  | a :: rest =>
    match lead? a with
    | none => none
    | some lead =>
      match extend? lead.count lead.bits rest with
      | none => none
      | some (n, behind) => (scalar? lead.least n).map (·, behind)

theorem length_of_extend? {count bits n : Nat} {bytes rest : Bytes}
    (h : extend? count bits bytes = some (n, rest)) : bytes.length = count + rest.length := by
  fun_induction extend? count bits bytes with
  | case1 bits bytes =>
    cases h
    simp
  | case2 => cases h
  | case3 => cases h
  | case4 bits count b bytes more _ ih =>
    simp only [List.length_cons, ih h]
    omega

/-- A character takes at least one byte. -/
theorem length_lt_of_head? {bytes rest : Bytes} {c : Char} (h : head? bytes = some (c, rest)) :
    rest.length < bytes.length := by
  match bytes, h with
  | [], h => cases h
  | a :: bytes, h =>
    rw [head?] at h
    split at h
    · cases h
    · split at h
      · cases h
      · rename_i he
        obtain ⟨_, _, he'⟩ := Option.map_eq_some_iff.mp h
        cases he'
        have := length_of_extend? he
        simp only [List.length_cons]
        omega

/-- A part of a byte sequence: a character, or a byte that belongs to none. -/
inductive Piece where
  | char (c : Char)
  | stray (b : UInt8)
  deriving DecidableEq

namespace Piece

/-- The character that a piece is. -/
def char? : Piece → Option Char
  | char c => some c
  | stray _ => none

/-- The bytes of a piece. -/
def bytes : Piece → Bytes
  | char c => String.utf8EncodeChar c
  | stray b => [b]

/-- Whether a piece is a character with a property. -/
def isCharWith (p : Char → Bool) : Piece → Bool
  | char c => p c
  | stray _ => false

end Piece

/-- The pieces of a byte sequence. -/
def pieces : Bytes → List Piece
  | [] => []
  | a :: rest =>
    match _h : head? (a :: rest) with
    | some (c, rest') => .char c :: pieces rest'
    | none => .stray a :: pieces rest
termination_by bytes => bytes.length
decreasing_by
  · exact length_lt_of_head? _h
  · simp

/-- The text of a byte sequence, with `U+FFFD` in place of each byte that belongs to no
character. -/
def decodeLossy (bytes : Bytes) : Text :=
  (pieces bytes).map fun piece => piece.char?.getD '\ufffd'

/-- The text of a byte sequence without the bytes that belong to no character. -/
def decodeValid (bytes : Bytes) : Text :=
  (pieces bytes).filterMap Piece.char?

/-- The text of a byte sequence that is UTF-8 throughout. -/
def decode? (bytes : Bytes) : Option Text :=
  (pieces bytes).mapM Piece.char?

/-! ## Characters that break off -/

/-- Whether a byte can follow a lead byte directly. -/
def canFollow (lead b : UInt8) : Bool :=
  (if lead = 0xe0 then 0xa0 else if lead = 0xf0 then 0x90 else 0x80) ≤ b
    && b ≤ (if lead = 0xed then 0x9f else if lead = 0xf4 then 0x8f else 0xbf)

/-- How many of the bytes behind a lead byte belong to the character that breaks off there. -/
def brokenLength (a : UInt8) (rest : Bytes) : Nat :=
  match rest with
  | [] => 0
  | b :: more =>
    if 0xc2 ≤ a && a ≤ 0xf4 && canFollow a b then
      let count := if a < 0xe0 then 1 else if a < 0xf0 then 2 else 3
      1 + ((more.take (count - 1)).takeWhile fun c => (continuation? c).isSome).length
    else 0

/-- The text of a byte sequence, with one `U+FFFD` in place of each character that breaks off and of
each byte that begins none. -/
def decodeBroken : Bytes → Text
  | [] => []
  | a :: rest =>
    match _h : head? (a :: rest) with
    | some (c, rest') => c :: decodeBroken rest'
    | none => '\ufffd' :: decodeBroken (rest.drop (brokenLength a rest))
termination_by bytes => bytes.length
decreasing_by
  · exact length_lt_of_head? _h
  · simp only [List.length_drop, List.length_cons]
    omega

/-- The bytes of a text. -/
def encode (t : Text) : Bytes :=
  t.flatMap String.utf8EncodeChar

end Nesting.Utf8
