import Nesting.Text
import Nesting.Text.Printable

/-!
# Quoted texts and characters

Messages quote file names, settings and delimiters. A quoted text stands between two quotes; the
quote itself and the backslash are escaped by a backslash, printable characters stand for
themselves, seven controls have a letter of their own, and every other character is written by its
code in hexadecimal, two digits for an ASCII control, four up to U+FFFF, eight above.
-/

namespace Nesting

/-- The number in lower-case hexadecimal, with zeros in front up to the given width. -/
def hexadecimal (width n : Nat) : Text :=
  let digits := Nat.toDigits 16 n
  List.replicate (width - digits.length) '0' ++ digits

namespace Quoted

/-- The letter that names a control character after a backslash. -/
def controlLetter? (c : Char) : Option Char :=
  match c with
  | '\x07' => some 'a'
  | '\x08' => some 'b'
  | '\x0c' => some 'f'
  | '\n' => some 'n'
  | '\r' => some 'r'
  | '\t' => some 't'
  | '\x0b' => some 'v'
  | _ => none

/-- How a character is written between two quotes of the given kind. -/
def escape (quote c : Char) : Text :=
  if c = quote || c = '\\' then ['\\', c]
  else if isPrintable c then [c]
  else match controlLetter? c with
    | some letter => ['\\', letter]
    | none =>
      if c.toNat < 0x20 || c.toNat = 0x7f then '\\' :: 'x' :: hexadecimal 2 c.toNat
      else if c.toNat < 0x10000 then '\\' :: 'u' :: hexadecimal 4 c.toNat
      else '\\' :: 'U' :: hexadecimal 8 c.toNat

/-- A text between two quotes of the given kind. -/
def encode (quote : Char) (t : Text) : Text :=
  quote :: t.flatMap (escape quote) ++ [quote]

end Quoted

/-- A text in double quotes. -/
def quoted (s : String) : String :=
  String.ofList (Quoted.encode '"' s.toList)

/-- A character in single quotes. -/
def quotedChar (c : Char) : String :=
  String.ofList (Quoted.encode '\'' [c])

end Nesting
