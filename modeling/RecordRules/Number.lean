import RecordRules.Binary64.Shortest
import RecordRules.Text.Blank

/-!
# RecordRules.Number

Numbers in three representations: signed and unsigned 64-bit integers and floating-point values.
The representation is kept as it was given.

* `Number.read?` takes the first representation that can hold the text: signed, unsigned, then
  floating point, and refuses values that are not finite.
* `Number.order?` compares integers exactly, whatever their representations; as soon as a
  floating-point value takes part, both sides are rounded to one.
-/

namespace RecordRules

inductive Number where
  | signed (n : Int64)
  | unsigned (n : UInt64)
  | float (x : Binary64)
deriving DecidableEq

/-- A number in the width that a field of a record declares it with. The integers of a machine word
have 64 bits, and single precision is given by its bits. -/
inductive NativeNumber where
  | int8 (n : Int8)
  | int16 (n : Int16)
  | int32 (n : Int32)
  | int64 (n : Int64)
  | uint8 (n : UInt8)
  | uint16 (n : UInt16)
  | uint32 (n : UInt32)
  | uint64 (n : UInt64)
  | single (bits : UInt32)
  | double (x : Binary64)

namespace Number

def ofNative : NativeNumber → Number
  | .int8 n => .signed n.toInt64
  | .int16 n => .signed n.toInt64
  | .int32 n => .signed n.toInt64
  | .int64 n => .signed n
  | .uint8 n => .unsigned n.toUInt64
  | .uint16 n => .unsigned n.toUInt64
  | .uint32 n => .unsigned n.toUInt64
  | .uint64 n => .unsigned n
  | .single bits => .float (.ofSingle bits)
  | .double x => .float x

/-- Floating-point values are written in place, without a point where they are whole, and a tie
between two shortest texts goes up. -/
def layout : Binary64.Layout :=
  ⟨.up, none, false, false⟩

def text : Number → List Char
  | .signed n => Decimal.intDigits n.toInt
  | .unsigned n => Decimal.natDigits n.toNat
  | .float x =>
    if x.isNaN then ['N', 'a', 'N']
    else if x.isFinite then layout.finite x
    else if x.isNegative then ['-', 'i', 'n', 'f']
    else ['i', 'n', 'f']

/-- An integer in the first representation that can hold it. -/
def ofInt? (n : Int) : Option Number :=
  if -0x8000000000000000 ≤ n ∧ n < 0x8000000000000000 then some (.signed (Int64.ofInt n))
  else if 0 ≤ n ∧ n < 0x10000000000000000 then some (.unsigned (UInt64.ofNat n.toNat))
  else none

/-- A decimal number as a floating-point value, if that is finite. -/
def ofDecimal? (d : Decimal) : Option Number :=
  let x := d.toBinary64
  if x.isFinite then some (.float x) else none

/-- The number a text stands for, blank characters around it aside. -/
def read? (cs : List Char) : Option Number :=
  let body := Text.trim cs
  match (Decimal.readInt? body).bind ofInt? with
  | some n => some n
  | none => (Decimal.read? body).bind ofDecimal?

def toBinary64 : Number → Binary64
  | .signed n => Binary64.ofInt n.toInt
  | .unsigned n => Binary64.ofInt n.toNat
  | .float x => x

def intOrder (a b : Int) : Ordering :=
  if a < b then .lt else if b < a then .gt else .eq

/-- The order of two numbers; a NaN stands in no order. -/
def order? : Number → Number → Option Ordering
  | .signed a, .signed b => some (intOrder a.toInt b.toInt)
  | .unsigned a, .unsigned b => some (intOrder a.toNat b.toNat)
  | .signed a, .unsigned b => some (intOrder a.toInt b.toNat)
  | .unsigned a, .signed b => some (intOrder a.toNat b.toInt)
  | a, b => a.toBinary64.order? b.toBinary64

/-- Equality of numbers: the same representation and the same value. A NaN differs from itself,
and the two zeros agree. -/
def same : Number → Number → Bool
  | .signed a, .signed b => a == b
  | .unsigned a, .unsigned b => a == b
  | .float x, .float y => x.order? y == some .eq
  | _, _ => false

end Number
end RecordRules
