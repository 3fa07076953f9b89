/-!
# RecordRules.Binary64

Double-precision floating-point values as their 64 bits: a sign, an exponent field of 11 bits and
a fraction of 52 bits. Everything is computed exactly on the bits, with natural numbers, so every
answer can be reasoned about.

A finite value is `m · 2 ^ q` with its sign, where `m` is `significand` and `q` is `scale`. Apart
from the sign, values are ordered as their bits are, which is all that comparing them needs.
`nearest` rounds a fraction to the closest value, ties to the even significand.
-/

namespace RecordRules

structure Binary64 where
  bits : UInt64
deriving DecidableEq

namespace Binary64

/-- The number of fraction values, `2 ^ 52`: an exponent step in the bits. -/
def fractionSize : Nat := 0x10000000000000

/-- The bits of the sign alone, `2 ^ 63`. -/
def signSize : Nat := 0x8000000000000000

/-- The bits of positive infinity, above which only NaNs lie. -/
def infinityBits : Nat := 2047 * fractionSize

def isNegative (x : Binary64) : Bool :=
  decide (signSize ≤ x.bits.toNat)

def magnitude (x : Binary64) : Nat :=
  x.bits.toNat % signSize

def isNaN (x : Binary64) : Bool :=
  decide (infinityBits < x.magnitude)

def isFinite (x : Binary64) : Bool :=
  decide (x.magnitude < infinityBits)

/-- The value with a given sign and given bits without the sign. -/
def ofMagnitude (negative : Bool) (m : Nat) : Binary64 :=
  ⟨UInt64.ofNat (if negative then signSize + m else m)⟩

def infinity (negative : Bool) : Binary64 :=
  ofMagnitude negative infinityBits

/-- The value's bits, read as a signed number: both zeros are 0. -/
def rank (x : Binary64) : Int :=
  if x.isNegative then -(x.magnitude : Int) else x.magnitude

/-- The order of two values; a NaN stands in no order. -/
def order? (x y : Binary64) : Option Ordering :=
  if x.isNaN || y.isNaN then none
  else if x.rank < y.rank then some .lt
  else if y.rank < x.rank then some .gt
  else some .eq

def exponentField (x : Binary64) : Nat :=
  x.magnitude / fractionSize

def fractionField (x : Binary64) : Nat :=
  x.magnitude % fractionSize

/-- The `m` of a finite value `m · 2 ^ q`. -/
def significand (x : Binary64) : Nat :=
  if x.exponentField = 0 then x.fractionField else fractionSize + x.fractionField

/-- The `q` of a finite value `m · 2 ^ q`. -/
def scale (x : Binary64) : Int :=
  if x.exponentField = 0 then -1074 else (x.exponentField : Int) - 1075

/-- `n · 2 ^ k` where `k` is not negative, and `n` elsewhere. -/
def scaledUp (n : Nat) (k : Int) : Nat :=
  n * Nat.pow 2 k.toNat

/-- The quotient `num / den` rounded to a whole number, ties to even. -/
def roundedQuotient (num den : Nat) : Nat :=
  let whole := num / den
  let twice := 2 * (num % den)
  if twice < den then whole
  else if den < twice then whole + 1
  else if whole % 2 = 0 then whole else whole + 1

/-- The scale `q` at which `num / den` has a significand of 53 bits, or the smallest scale there
is. The first guess, from the lengths of the two numbers, is at most one too small. -/
def scaleOf (num den : Nat) : Int :=
  let guess := (num.log2 : Int) - (den.log2 : Int) - 53
  let fits := decide (scaledUp num (-guess) < 2 * fractionSize * scaledUp den guess)
  max (if fits then guess else guess + 1) (-1074)

/-- The bits of `m · 2 ^ q`, where `m` has at most 53 bits and all 53 above the smallest scale. A
significand of `2 ^ 53` carries into the exponent, as it should. -/
def packed (m : Nat) (q : Int) : Nat :=
  if m < fractionSize then m
  else (q + 1075).toNat * fractionSize + (m - fractionSize)

/-- The value nearest to `num / den`, ties to the even significand; too large a quotient gives
infinity. -/
def nearest (negative : Bool) (num den : Nat) : Binary64 :=
  if num = 0 then ofMagnitude negative 0
  else
    let q := scaleOf num den
    let m := roundedQuotient (scaledUp num (-q)) (scaledUp den q)
    ofMagnitude negative (min (packed m q) infinityBits)

def ofInt (n : Int) : Binary64 :=
  nearest (decide (n < 0)) n.natAbs 1

def singleFractionSize : Nat := 0x800000

def singleSignSize : Nat := 0x80000000

/-- A single-precision value, given by its 32 bits, in double precision. Nothing is rounded. -/
def ofSingle (bits : UInt32) : Binary64 :=
  let negative := decide (singleSignSize ≤ bits.toNat)
  let exponent := bits.toNat % singleSignSize / singleFractionSize
  let fraction := bits.toNat % singleFractionSize
  let widened := fraction * (fractionSize / singleFractionSize)
  if exponent = 255 then ofMagnitude negative (infinityBits + widened)
  else if exponent = 0 then nearest negative fraction (Nat.pow 2 149)
  else ofMagnitude negative ((exponent + 896) * fractionSize + widened)

theorem order?_eq_none_iff (x y : Binary64) :
    order? x y = none ↔ x.isNaN = true ∨ y.isNaN = true := by
  unfold order?
  split
  · rename_i h; simpa using h
  · rename_i h
    have h' : ¬(x.isNaN = true ∨ y.isNaN = true) := by simpa using h
    constructor
    · intro hn
      split at hn
      · cases hn
      · split at hn <;> cases hn
    · intro hn; exact absurd hn h'

end Binary64
end RecordRules
