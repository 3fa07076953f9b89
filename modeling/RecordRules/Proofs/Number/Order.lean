import RecordRules.Number

/-!
# RecordRules.Proofs.Number.Order

Which numbers stand in an order: all but those with a NaN on one side (`Number.order?_eq_none_iff`).
An integer that is rounded to a floating-point value never becomes a NaN, since rounding stops at
infinity (`Binary64.isNaN_nearest`).
-/

namespace RecordRules

namespace Binary64

theorem magnitude_ofMagnitude {m : Nat} (h : m < signSize) (negative : Bool) :
    (ofMagnitude negative m).magnitude = m := by
  have hsize : signSize = 2 ^ 63 := rfl
  rw [ofMagnitude, magnitude, UInt64.toNat_ofNat', hsize]
  rw [hsize] at h
  cases negative with
  | false =>
    rw [if_neg (by decide)]
    omega
  | true =>
    rw [if_pos rfl]
    omega

theorem isNaN_ofMagnitude {m : Nat} (h : m ≤ infinityBits) (negative : Bool) :
    (ofMagnitude negative m).isNaN = false := by
  have hlt : m < signSize := Nat.lt_of_le_of_lt h (by decide)
  rw [isNaN, magnitude_ofMagnitude hlt]
  simpa using h

theorem isNaN_nearest (negative : Bool) (num den : Nat) :
    (nearest negative num den).isNaN = false := by
  rw [nearest]
  split
  · exact isNaN_ofMagnitude (Nat.zero_le _) negative
  · exact isNaN_ofMagnitude (Nat.min_le_right _ _) negative

end Binary64

namespace Number

def isNaN : Number → Bool
  | .float x => x.isNaN
  | _ => false

theorem isNaN_toBinary64 (n : Number) : n.toBinary64.isNaN = n.isNaN := by
  cases n with
  | signed n => exact Binary64.isNaN_nearest _ _ _
  | unsigned n => exact Binary64.isNaN_nearest _ _ _
  | float x => rfl

theorem order?_eq_none_iff {a b : Number} :
    a.order? b = none ↔ a.isNaN = true ∨ b.isNaN = true := by
  -- as soon as one side is a floating-point value, both are compared as such
  have hfloat : a.toBinary64.order? b.toBinary64 = none ↔ a.isNaN = true ∨ b.isNaN = true := by
    rw [Binary64.order?_eq_none_iff, isNaN_toBinary64, isNaN_toBinary64]
  cases a with
  | float x => exact hfloat
  | signed m =>
    cases b with
    | float y => exact hfloat
    | _ => simp [order?, isNaN]
  | unsigned m =>
    cases b with
    | float y => exact hfloat
    | _ => simp [order?, isNaN]

end Number
end RecordRules
