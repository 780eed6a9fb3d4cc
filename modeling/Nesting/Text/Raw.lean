import Nesting.Encoding.Utf8
import Nesting.Text.Blank
import Nesting.Text.Quoted

/-!
# Texts as bytes

A setting can come from a file that is not UTF-8, and a message that quotes it shows each byte that
belongs to no character by its number. Such a text is kept as its bytes. Wherever it has to be read
it is read by its characters, with `U+FFFD` in place of stray bytes: no number, no label and no name
of a format has one.
-/

namespace Nesting

/-- A text as its bytes, which need not be UTF-8. -/
structure RawText where
  bytes : Bytes
  deriving DecidableEq, Inhabited

namespace RawText

/-- The bytes of a text. -/
def ofText (t : Text) : RawText := ⟨Utf8.encode t⟩

/-- The bytes of a string. -/
def ofString (s : String) : RawText := ofText s.toList

instance : Coe String RawText := ⟨ofString⟩

/-- The characters of a text, with `U+FFFD` in place of stray bytes. -/
def chars (r : RawText) : Text :=
  Utf8.decodeLossy r.bytes

/-- A text as it is shown. -/
def shown (r : RawText) : String :=
  String.ofList r.chars

/-- How a piece of a text is written between double quotes. -/
def escapePiece : Utf8.Piece → Text
  | .char c => Quoted.escape '"' c
  | .stray b => '\\' :: 'x' :: hexadecimal 2 b.toNat

/-- A text in double quotes. -/
def quoted (r : RawText) : String :=
  String.ofList ('"' :: (Utf8.pieces r.bytes).flatMap escapePiece ++ ['"'])

/-- The text that pieces make. -/
def ofPieces (pieces : List Utf8.Piece) : RawText :=
  ⟨pieces.flatMap Utf8.Piece.bytes⟩

end RawText

end Nesting
