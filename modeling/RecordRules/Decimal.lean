import RecordRules.Binary64

/-!
# RecordRules.Decimal

Numbers in decimal notation: digits of natural numbers and whole numbers, their reading back, and
numbers with a point and an exponent. A decimal number is kept exactly, as a coefficient and a
power of ten, until it is rounded to a floating-point value in one step.

Hexadecimal digits, small or capital, stand for natural numbers alone.
-/

namespace RecordRules

/-- The value `coefficient · 10 ^ exponent`, with a sign. -/
structure Decimal where
  negative : Bool
  coefficient : Nat
  exponent : Int

namespace Decimal

/-- The decimal digits of a natural number, without leading zeros. -/
def natDigits (n : Nat) : List Char :=
  Nat.toDigits 10 n

/-- A whole number in digits, with a minus sign where it is negative. -/
def intDigits (n : Int) : List Char :=
  if n < 0 then '-' :: natDigits n.natAbs else natDigits n.natAbs

def isDigit (c : Char) : Bool :=
  decide ('0'.toNat ≤ c.toNat) && decide (c.toNat ≤ '9'.toNat)

def digitsValue (cs : List Char) : Nat :=
  Nat.ofDigitChars 10 cs 0

/-- A text of one digit or more. -/
def readNat? (cs : List Char) : Option Nat :=
  if cs.isEmpty || !cs.all isDigit then none else some (digitsValue cs)

/-- An optional sign and the rest; the flag says whether the sign is a minus. -/
def splitSign : List Char → Bool × List Char
  | '-' :: cs => (true, cs)
  | '+' :: cs => (false, cs)
  | cs => (false, cs)

def signed (negative : Bool) (n : Nat) : Int :=
  if negative then -(n : Int) else n

/-- A whole number: an optional sign and digits. -/
def readInt? (cs : List Char) : Option Int :=
  let (negative, digits) := splitSign cs
  (readNat? digits).map (signed negative)

/-- An exponent part: nothing, or a mark `e` or `E` and a whole number. -/
def readExponent? : List Char → Option Int
  | [] => some 0
  | c :: cs => if c = 'e' || c = 'E' then readInt? cs else none

/-- A number in decimal notation: an optional sign, digits with at most one point and at least one
digit, and an optional exponent part. -/
def read? (cs : List Char) : Option Decimal :=
  let (negative, unsignedText) := splitSign cs
  let whole := unsignedText.takeWhile isDigit
  let afterWhole := unsignedText.dropWhile isDigit
  let (fraction, afterFraction) :=
    match afterWhole with
    | '.' :: rest => (rest.takeWhile isDigit, rest.dropWhile isDigit)
    | rest => ([], rest)
  if whole.isEmpty && fraction.isEmpty then none
  else
    match readExponent? afterFraction with
    | none => none
    | some e => some ⟨negative, digitsValue (whole ++ fraction), e - fraction.length⟩

/-- `n · 10 ^ k` where `k` is not negative, and `n` elsewhere. -/
def scaledUp (n : Nat) (k : Int) : Nat :=
  n * Nat.pow 10 k.toNat

/-- Beyond this power of ten every number is too large for a floating-point value, and below its
opposite every number rounds to zero. -/
def exponentRange : Int := 400

/-- The floating-point value nearest to a decimal number. Numbers far outside the range are
decided by their size alone. -/
def toBinary64 (d : Decimal) : Binary64 :=
  let size : Int := d.exponent + (natDigits d.coefficient).length
  if d.coefficient = 0 then Binary64.ofMagnitude d.negative 0
  else if exponentRange < size then Binary64.infinity d.negative
  else if size < -exponentRange then Binary64.ofMagnitude d.negative 0
  else
    Binary64.nearest d.negative (scaledUp d.coefficient d.exponent) (scaledUp 1 (-d.exponent))

theorem digitsValue_natDigits (n : Nat) : digitsValue (natDigits n) = n :=
  Nat.ofDigitChars_toDigits (by decide) (by decide)

end Decimal

/-! ## Hexadecimal digits -/

namespace Text

def hexDigit? (c : Char) : Option Nat :=
  if Decimal.isDigit c then some (c.toNat - '0'.toNat)
  else if 'a'.toNat ≤ c.toNat ∧ c.toNat ≤ 'f'.toNat then some (c.toNat - 'a'.toNat + 10)
  else if 'A'.toNat ≤ c.toNat ∧ c.toNat ≤ 'F'.toNat then some (c.toNat - 'A'.toNat + 10)
  else none

/-- The number that digits stand for, read on from a number before them. -/
def hexValueFrom? (n : Nat) : List Char → Option Nat
  | [] => some n
  | c :: cs =>
    match hexDigit? c with
    | some d => hexValueFrom? (16 * n + d) cs
    | none => none

def hexValue? (cs : List Char) : Option Nat :=
  hexValueFrom? 0 cs

end Text
end RecordRules
