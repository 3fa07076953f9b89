import RecordRules.Binary64
import RecordRules.Decimal

/-!
# RecordRules.Binary64.Shortest

The shortest decimal text of a floating-point value: the fewest digits that still round to the
value, and among those the closest to it.

A decimal number rounds to a value exactly when it lies in an interval around it, whose ends count
when the significand is even. If any number on a decimal grid lies in that interval, so does one
of the two that enclose the value; the grids are tried from one digit upwards, and the first with
a hit gives the digits. Where both neighbours hit and neither is closer, a `Tie` decides.

How the digits are then laid out is a separate matter, described by a `Layout`.
-/

namespace RecordRules
namespace Binary64

/-- Which of two equally close decimals is taken. -/
inductive Tie where
  | up
  | even

/-- The digits `coefficient` before the power of ten `exponent`. -/
structure Digits where
  coefficient : Nat
  exponent : Int

/-- A positive value between the ends of the interval that rounds to it, over one denominator. -/
structure Neighbourhood where
  low : Nat
  value : Nat
  high : Nat
  den : Nat
  closed : Bool

/-- The interval around a positive finite value. Below a power of two the values lie twice as
dense, so the lower end is nearer there. -/
def neighbourhood (x : Binary64) : Neighbourhood :=
  let m := x.significand
  let q := x.scale
  let below := if m = fractionSize && decide (-1074 < q) then 1 else 2
  ⟨scaledUp (4 * m - below) q, scaledUp (4 * m) q, scaledUp (4 * m + 2) q, scaledUp 4 (-q),
    m % 2 == 0⟩

/-- The position of the leading digit: the value lies in `[10 ^ (k - 1), 10 ^ k)`. -/
def leadingPosition (num den : Nat) : Int :=
  if den ≤ num then (Decimal.natDigits (num / den)).length
  else
    let k := (Decimal.natDigits (den / num)).length
    if den = num * Nat.pow 10 (k - 1) then 2 - (k : Int) else 1 - (k : Int)

/-- Whether `d · 10 ^ e` lies in the interval. -/
def Neighbourhood.holds (n : Neighbourhood) (d : Nat) (e : Int) : Bool :=
  let here := Decimal.scaledUp d e * n.den
  let low := Decimal.scaledUp n.low (-e)
  let high := Decimal.scaledUp n.high (-e)
  if n.closed then decide (low ≤ here) && decide (here ≤ high)
  else decide (low < here) && decide (here < high)

/-- The digits on the grid of `10 ^ e`, if a number on it lies in the interval. -/
def Neighbourhood.onGrid (tie : Tie) (n : Neighbourhood) (e : Int) : Option Digits :=
  let num := Decimal.scaledUp n.value (-e)
  let den := Decimal.scaledUp n.den e
  let d := num / den
  let rest := 2 * (num % den)
  let lowHolds := n.holds d e
  let highHolds := n.holds (d + 1) e
  let takeHigh :=
    if lowHolds && highHolds then
      if rest < den then false
      else if den < rest then true
      else
        match tie with
        | .up => true
        | .even => d % 2 == 1
    else highHolds
  if takeHigh then some ⟨d + 1, e⟩
  else if lowHolds then some ⟨d, e⟩
  else none

/-- The first hit from the given number of digits upwards, trying at most `tries` grids. -/
def Neighbourhood.search (tie : Tie) (n : Neighbourhood) (top : Int) :
    (tries digits : Nat) → Digits
  | 0, digits => ⟨Decimal.scaledUp n.value (digits - top) / n.den, top - digits⟩
  | tries + 1, digits =>
    match n.onGrid tie (top - digits) with
    | some d => d
    | none => n.search tie top tries (digits + 1)

/-- The shortest digits of a positive finite value; seventeen always suffice. -/
def shortestDigits (tie : Tie) (x : Binary64) : Digits :=
  let n := x.neighbourhood
  n.search tie (leadingPosition n.value n.den) 17 1

/-- How digits are written: ties, the positions of the leading digit that are written without an
exponent (all of them where none are given), whether whole values keep a point and a zero, and
whether a positive exponent has a plus sign. -/
structure Layout where
  tie : Tie
  positional : Option (Int × Int)
  keepsPoint : Bool
  plusSign : Bool

def Layout.inPlace (l : Layout) (digits : List Char) (point : Int) : List Char :=
  if point ≤ 0 then '0' :: '.' :: (List.replicate (-point).toNat '0' ++ digits)
  else if (digits.length : Int) ≤ point then
    digits ++ List.replicate (point.toNat - digits.length) '0' ++
      (if l.keepsPoint then ['.', '0'] else [])
  else digits.take point.toNat ++ '.' :: digits.drop point.toNat

/-- One digit before the point, the others after it, and an exponent. -/
def Layout.withExponent (l : Layout) (digits : List Char) (point : Int) : List Char :=
  let e := point - 1
  let mantissa :=
    match digits with
    | d :: [] => [d]
    | d :: ds => d :: '.' :: ds
    | [] => []
  let sign := if l.plusSign && decide (0 ≤ e) then ['+'] else []
  mantissa ++ 'e' :: (sign ++ Decimal.intDigits e)

def Layout.finite (l : Layout) (x : Binary64) : List Char :=
  let sign := if x.isNegative then ['-'] else []
  if x.magnitude = 0 then sign ++ (if l.keepsPoint then ['0', '.', '0'] else ['0'])
  else
    let d := x.shortestDigits l.tie
    let digits := (Decimal.natDigits d.coefficient).reverse.dropWhile (· == '0') |>.reverse
    let point := d.exponent + (Decimal.natDigits d.coefficient).length
    let inPlace :=
      match l.positional with
      | none => true
      | some (least, most) => decide (least ≤ point) && decide (point ≤ most)
    sign ++ if inPlace then l.inPlace digits point else l.withExponent digits point

end Binary64
end RecordRules
