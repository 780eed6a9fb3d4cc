import Nesting.Text

/-!
# UTF-16

Two bytes make a unit, in one of two orders. A unit outside of the surrogates is the code of a
character. A surrogate goes together with a trailing surrogate behind it: the two make a character
if the first one is a leading surrogate, and one `U+FFFD` otherwise. Any other surrogate, and a byte
that is left over at the end, make a `U+FFFD` of their own. A byte order mark is a character like
any other.
-/

namespace Nesting.Utf16

/-- Which byte of a unit comes first. -/
inductive ByteOrder where
  | little
  | big
  deriving DecidableEq

/-- The unit made of two bytes. -/
def ByteOrder.unit : ByteOrder → UInt8 → UInt8 → Nat
  | .little, a, b => b.toNat * 256 + a.toNat
  | .big, a, b => a.toNat * 256 + b.toNat

def isSurrogate (u : Nat) : Bool := 0xd800 ≤ u && u < 0xe000
def isLeading (u : Nat) : Bool := 0xd800 ≤ u && u < 0xdc00
def isTrailing (u : Nat) : Bool := 0xdc00 ≤ u && u < 0xe000

/-- What a surrogate makes together with a trailing one. -/
def pair (u v : Nat) : Char :=
  if isLeading u then Char.ofNat (0x10000 + (u - 0xd800) * 0x400 + (v - 0xdc00)) else '\ufffd'

/-- The text of a byte sequence. -/
def decode (order : ByteOrder) : Bytes → Text
  | [] => []
  | [_] => ['\ufffd']
  | a :: b :: rest =>
    let u := order.unit a b
    if isSurrogate u then
      match rest with
      | c :: d :: behind =>
        let v := order.unit c d
        if isTrailing v then pair u v :: decode order behind
        else '\ufffd' :: decode order (c :: d :: behind)
      | rest => '\ufffd' :: decode order rest
    else Char.ofNat u :: decode order rest

/-- The text of a byte sequence in which every unit is a character or half of one. -/
def decode? (order : ByteOrder) : Bytes → Option Text
  | [] => some []
  | [_] => none
  | a :: b :: rest =>
    let u := order.unit a b
    if isSurrogate u then
      match rest with
      | c :: d :: behind =>
        let v := order.unit c d
        if isLeading u && isTrailing v then (decode? order behind).map (pair u v :: ·) else none
      | _ => none
    else (decode? order rest).map (Char.ofNat u :: ·)

end Nesting.Utf16
