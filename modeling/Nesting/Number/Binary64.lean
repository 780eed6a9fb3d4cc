import Nesting.Number.Literal

/-!
# Double precision numbers

Configuration files hold numbers with a fraction, and such a number is kept in double precision. A
finite one is a mantissa of up to 53 bits times a power of two that is not below `2^-1074`; the
mantissa has all of its bits unless the power is that least one, so each number has one form.

A decimal is read as the double nearest to it, of two equally near ones that with the even mantissa.
It is written with the fewest digits that read back, and of those with the nearest. Reading goes by
exact quotients of natural numbers, and writing tries, for one digit after the other, the two
decimals around the number.
-/

namespace Nesting

/-! ## Decimals -/

/-- A number as it is written: a whole coefficient and a power of ten. -/
structure Decimal where
  negative : Bool
  coefficient : Nat
  exponent : Int
  deriving DecidableEq

namespace Decimal

/-- The number that a row of decimal digits spells. -/
def natOfDigits (digits : Text) : Nat :=
  digits.foldl (fun n c => n * 10 + (c.toNat - '0'.toNat)) 0

/-- The exponent that a text spells, from the letter on; without a letter it is zero. -/
def exponent? : Text → Option Int
  | [] => some 0
  | c :: rest =>
    let (negative, digits) := Literal.takeSign rest
    if (c = 'e' || c = 'E') && digits ≠ [] && digits.all Char.isDigit then
      some (if negative then -(natOfDigits digits : Int) else natOfDigits digits)
    else none

/-- The decimal that a text spells: an optional sign, digits with a point among them or not, and an
optional exponent. -/
def read? (t : Text) : Option Decimal :=
  let (negative, unsigned) := Literal.takeSign t
  let whole := unsigned.takeWhile Char.isDigit
  let behind := unsigned.dropWhile Char.isDigit
  let (fraction, tail) :=
    match behind with
    | '.' :: rest => (rest.takeWhile Char.isDigit, rest.dropWhile Char.isDigit)
    | _ => ([], behind)
  if whole = [] && fraction = [] then none
  else (exponent? tail).map fun e =>
    ⟨negative, natOfDigits (whole ++ fraction), e - fraction.length⟩

end Decimal

/-! ## Doubles -/

/-- A number in double precision. -/
inductive Binary64 where
  | nan
  | infinite (negative : Bool)
  | finite (negative : Bool) (mantissa : Nat) (exponent : Int)
  deriving DecidableEq

namespace Binary64

/-- The exponent of the least positive number. -/
def leastExponent : Int := -1074

/-- The greatest exponent. -/
def greatestExponent : Int := 971

/-- The least mantissa of 53 bits, `2^52`. -/
def leastMantissa : Nat := 0x10000000000000

/-- Zero with a sign. -/
def zero (negative : Bool) : Binary64 :=
  finite negative 0 leastExponent

/-- The quotient of two numbers as a whole number, rounded to the nearest one and from halfway to
the even one. -/
def roundQuotient (n d : Nat) : Nat :=
  let q := n / d
  let r := n % d
  if 2 * r < d then q else if d < 2 * r then q + 1 else q + q % 2

/-- A ratio of natural numbers times a power of a base, as a ratio. -/
def scale (base : Nat) (n d : Nat) (e : Int) : Nat × Nat :=
  if 0 ≤ e then (n * Nat.pow base e.toNat, d) else (n, d * Nat.pow base (-e).toNat)

/-- The power of two at which the ratio `n / d` has a mantissa of 53 bits, or the least one. -/
def exponentFor (n d : Nat) : Int :=
  let guess := (Nat.log2 n : Int) - Nat.log2 d - 53
  let (a, b) := scale 2 n d (-guess)
  max leastExponent (if b * (2 * leastMantissa) ≤ a then guess + 1 else guess)

/-- The double nearest to a positive ratio, if it is not too large. -/
def ofRatio (negative : Bool) (n d : Nat) : Option Binary64 :=
  let e := exponentFor n d
  let (a, b) := scale 2 n d (-e)
  let m := roundQuotient a b
  let (mantissa, exponent) := if m = 2 * leastMantissa then (leastMantissa, e + 1) else (m, e)
  if greatestExponent < exponent then none else some (finite negative mantissa exponent)

/-- The number of decimal digits of a number. -/
def digitCount (n : Nat) : Nat :=
  (Nat.toDigits 10 n).length

/-- The double nearest to a decimal, if it is not too large. Powers of ten that are out of reach are
not computed. -/
def ofDecimal (x : Decimal) : Option Binary64 :=
  let magnitude := x.exponent + digitCount x.coefficient
  if x.coefficient = 0 || magnitude < -330 then some (zero x.negative)
  else if 330 < magnitude then none
  else
    let (n, d) := scale 10 x.coefficient 1 x.exponent
    ofRatio x.negative n d

/-- Whether the number is zero. -/
def isZero : Binary64 → Bool
  | finite _ m _ => m = 0
  | _ => false

/-- A whole number that puts the number in its place among all others. That which is no number comes
first, and zero is zero whatever its sign. -/
def position : Binary64 → Int
  | nan => -2 * Nat.pow 2 2100
  | infinite negative => if negative then -Nat.pow 2 2100 else Nat.pow 2 2100
  | finite negative m e =>
    let n : Int := m * Nat.pow 2 (e - leastExponent).toNat
    if negative then -n else n

/-- The whole part of the number as a word; the least word if there is none. -/
def truncate : Binary64 → Int
  | finite negative m e =>
    let (n, d) := scale 2 m 1 e
    match Literal.signed negative (n / d) with
    | .ok w => w
    | .error _ => Word.least
  | _ => Word.least

/-! ## The fewest digits that read back -/

/-- Significant digits, and how many of them stand in front of the point; zero has none. -/
structure Digits where
  digits : Text
  point : Int

/-- How many digits a positive ratio has in front of the point, or, below one tenth, minus the
number of zeros behind it. -/
def pointOf (n d : Nat) : Int :=
  let guess := (digitCount n : Int) - digitCount d
  let (a, b) := scale 10 n d (-guess)
  if b ≤ a then guess + 1 else guess

/-- The two decimals with the given number of digits around a positive ratio, the nearer one first.
Each is a coefficient of the same power of ten. -/
def neighbours (n d : Nat) (e : Int) : List Nat :=
  let (a, b) := scale 10 n d (-e)
  let nearest := roundQuotient a b
  [nearest, if nearest = a / b then nearest + 1 else a / b]

/-- The digits of a coefficient of a power of ten, without zeros at the end. -/
def Digits.ofCoefficient (n : Nat) (e : Int) : Digits :=
  let digits := Nat.toDigits 10 n
  ⟨(digits.reverse.dropWhile (· = '0')).reverse, digits.length + e⟩

/-- The fewest digits that read back as the double with the given mantissa and exponent. -/
def shortest (m : Nat) (e : Int) : Digits :=
  if m = 0 then ⟨[], 0⟩
  else
    let (n, d) := scale 2 m 1 e
    let point := pointOf n d
    let found := (List.range 17).findSome? fun (k : Nat) =>
      let unit : Int := point - (k + 1)
      let reads (c : Nat) : Bool := ofDecimal ⟨false, c, unit⟩ = some (finite false m e)
      ((neighbours n d unit).find? reads).map (Digits.ofCoefficient · unit)
    found.getD ⟨[], 0⟩

/-! ## Writing -/

/-- Digits with a point, and with as many zeros as that takes. -/
def Digits.positional (x : Digits) : Text :=
  let whole := x.point.toNat
  (if whole = 0 then ['0']
    else x.digits.take whole ++ List.replicate (whole - x.digits.length) '0')
    ++ if x.digits.length ≤ whole then []
      else '.' :: List.replicate (-x.point).toNat '0' ++ x.digits.drop whole

/-- Digits with a point behind the first one, and an exponent of at least two digits. -/
def Digits.scientific (x : Digits) : Text :=
  let e := x.point - 1
  let exponent := Nat.toDigits 10 e.natAbs
  x.digits.take 1 ++ (if x.digits.length ≤ 1 then [] else '.' :: x.digits.drop 1)
    ++ ['e', if e < 0 then '-' else '+']
    ++ List.replicate (2 - exponent.length) '0' ++ exponent

/-- A number written with the given form of its digits. -/
def written (form : Digits → Text) : Binary64 → String
  | nan => "NaN"
  | infinite negative => if negative then "-Inf" else "+Inf"
  | finite negative m e => String.ofList ((if negative then ['-'] else []) ++ form (shortest m e))

/-- A number without an exponent. -/
def positional : Binary64 → String :=
  written Digits.positional

/-- A number without an exponent if it is in `[10^-4, 10^6)` or zero, else with one. -/
def general : Binary64 → String :=
  written fun x =>
    if x.digits ≠ [] && (x.point < -3 || 6 < x.point) then x.scientific else x.positional

end Binary64

end Nesting
