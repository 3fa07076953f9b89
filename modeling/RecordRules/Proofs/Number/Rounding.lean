import RecordRules.Proofs.Number.Order
import Mathlib.Algebra.Group.Nat.Defs

/-!
# RecordRules.Proofs.Number.Rounding

Rounding whole numbers to floating-point values keeps their order, and keeps them apart as far as
significands reach.

A whole number has its scale from its length, so that its significand lies between `2 ^ 52` and
`2 ^ 53` (`wholeSignificand_bounds`). Within one length the rounded quotients are monotone, and from one
length to the next the bits grow by a whole exponent step. `rank_ofInt_mono` says so of the signed
values, `rank_ofInt_lt` of numbers up to `2 ^ 53`, which are not rounded at all.
-/

namespace RecordRules
namespace Binary64

/-! ## Quotients -/

theorem roundedQuotient_bounds (num den : Nat) :
    num / den ≤ roundedQuotient num den ∧ roundedQuotient num den ≤ num / den + 1 := by
  simp only [roundedQuotient]
  split
  · omega
  · split
    · omega
    · split <;> omega

theorem roundedQuotient_mono {m n den : Nat} (h : m ≤ n) :
    roundedQuotient m den ≤ roundedQuotient n den := by
  have hm := roundedQuotient_bounds m den
  have hn := roundedQuotient_bounds n den
  have hdiv : m / den ≤ n / den := Nat.div_le_div_right h
  by_cases hsame : m / den = n / den
  · -- the same whole part, so the remainders decide
    have hmod : m % den ≤ n % den := by
      have hmq := Nat.div_add_mod m den
      have hnq := Nat.div_add_mod n den
      rw [hsame] at hmq
      omega
    simp only [roundedQuotient, hsame]
    generalize n / den = whole
    repeat' split
    all_goals omega
  · omega

theorem roundedQuotient_one (n : Nat) : roundedQuotient n 1 = n := by
  simp [roundedQuotient, Nat.mod_one]

/-! ## Whole numbers -/

/-- The significand of a whole number of a given length, before it is packed. -/
def wholeSignificand (n : Nat) : Nat :=
  roundedQuotient (n * 2 ^ (52 - n.log2)) (2 ^ (n.log2 - 52))

/-- The bits of a whole number without the sign. -/
def wholeBits (n : Nat) : Nat :=
  if n = 0 then 0 else (n.log2 + 1023) * fractionSize + (wholeSignificand n - fractionSize)

theorem scaleOf_one {n : Nat} (hn : n ≠ 0) : scaleOf n 1 = (n.log2 : Int) - 52 := by
  have hlow := Nat.log2_self_le hn
  have hone : Nat.log2 1 = 0 := by decide
  have hfits : ¬scaledUp n (-((n.log2 : Int) - 0 - 53)) <
      2 * fractionSize * scaledUp 1 ((n.log2 : Int) - 0 - 53) := by
    have hsize : 2 * fractionSize = 2 ^ 53 := rfl
    rw [scaledUp, scaledUp, hsize, Nat.one_mul, Nat.pow_eq, Nat.pow_eq, ← Nat.pow_add]
    refine Nat.not_lt.mpr ?_
    calc 2 ^ (53 + ((n.log2 : Int) - 0 - 53).toNat)
        = 2 ^ n.log2 * 2 ^ (-((n.log2 : Int) - 0 - 53)).toNat := by
          rw [← Nat.pow_add]
          congr 1
          omega
      _ ≤ n * 2 ^ (-((n.log2 : Int) - 0 - 53)).toNat := Nat.mul_le_mul_right _ hlow
  rw [scaleOf, hone]
  simp only [Int.natCast_zero, hfits, decide_false, Bool.false_eq_true, if_false]
  omega

theorem wholeSignificand_bounds {n : Nat} (hn : n ≠ 0) :
    fractionSize ≤ wholeSignificand n ∧ wholeSignificand n ≤ 2 * fractionSize := by
  have hlow := Nat.log2_self_le hn
  have hhigh := Nat.lt_log2_self (n := n)
  have hb := roundedQuotient_bounds (n * 2 ^ (52 - n.log2)) (2 ^ (n.log2 - 52))
  have hsize : fractionSize = 2 ^ 52 := rfl
  have hpos : 0 < 2 ^ (n.log2 - 52) := Nat.two_pow_pos _
  have hfloor : 2 ^ 52 ≤ n * 2 ^ (52 - n.log2) / 2 ^ (n.log2 - 52) := by
    rw [Nat.le_div_iff_mul_le hpos, ← Nat.pow_add]
    calc 2 ^ (52 + (n.log2 - 52)) = 2 ^ n.log2 * 2 ^ (52 - n.log2) := by
          rw [← Nat.pow_add]
          congr 1
          omega
      _ ≤ n * 2 ^ (52 - n.log2) := Nat.mul_le_mul_right _ hlow
  have hceil : n * 2 ^ (52 - n.log2) / 2 ^ (n.log2 - 52) < 2 ^ 53 := by
    rw [Nat.div_lt_iff_lt_mul hpos, ← Nat.pow_add]
    calc n * 2 ^ (52 - n.log2) < 2 ^ (n.log2 + 1) * 2 ^ (52 - n.log2) :=
          Nat.mul_lt_mul_of_pos_right hhigh (Nat.two_pow_pos _)
      _ = 2 ^ (53 + (n.log2 - 52)) := by
          rw [← Nat.pow_add]
          congr 1
          omega
  rw [wholeSignificand, hsize]
  omega

theorem nearest_one (negative : Bool) (n : Nat) :
    nearest negative n 1 = ofMagnitude negative (min (wholeBits n) infinityBits) := by
  by_cases hn : n = 0
  · simp [nearest, wholeBits, hn]
  · obtain ⟨hlow, -⟩ := wholeSignificand_bounds hn
    have hnum : scaledUp n (-((n.log2 : Int) - 52)) = n * 2 ^ (52 - n.log2) := by
      rw [scaledUp, Nat.pow_eq]
      congr 2
      omega
    have hden : scaledUp 1 ((n.log2 : Int) - 52) = 2 ^ (n.log2 - 52) := by
      rw [scaledUp, Nat.pow_eq, Nat.one_mul]
      congr 1
      omega
    have hpacked : packed (wholeSignificand n) ((n.log2 : Int) - 52) = wholeBits n := by
      rw [packed, if_neg (Nat.not_lt.mpr hlow), wholeBits, if_neg hn]
      congr 2
      omega
    simp only [nearest, hn, if_false, scaleOf_one hn, hnum, hden]
    rw [← wholeSignificand, hpacked]

theorem wholeSignificand_mono {m n : Nat} (hlog : m.log2 = n.log2) (h : m ≤ n) :
    wholeSignificand m ≤ wholeSignificand n := by
  rw [wholeSignificand, wholeSignificand, hlog]
  exact roundedQuotient_mono (Nat.mul_le_mul_right _ h)

theorem log2_mono {m n : Nat} (hm : m ≠ 0) (h : m ≤ n) : m.log2 ≤ n.log2 :=
  (Nat.le_log2 (by omega)).mpr (Nat.le_trans (Nat.log2_self_le hm) h)

/-- The next length starts a whole exponent step further on. -/
theorem exponent_step {k l : Nat} (h : k < l) :
    (k + 1023) * fractionSize + fractionSize ≤ (l + 1023) * fractionSize := by
  have hstep : (k + 1023 + 1) * fractionSize ≤ (l + 1023) * fractionSize :=
    Nat.mul_le_mul_right _ (by omega)
  rwa [Nat.add_mul, Nat.one_mul] at hstep

theorem wholeBits_mono {m n : Nat} (h : m ≤ n) : wholeBits m ≤ wholeBits n := by
  by_cases hm : m = 0
  · simp [wholeBits, hm]
  · have hn : n ≠ 0 := by omega
    have hmb := wholeSignificand_bounds hm
    have hnb := wholeSignificand_bounds hn
    rw [wholeBits, wholeBits, if_neg hm, if_neg hn]
    have hle := log2_mono hm h
    by_cases hlog : m.log2 = n.log2
    · have hs := wholeSignificand_mono hlog h
      rw [hlog]
      omega
    · have hstep := exponent_step (Nat.lt_of_le_of_ne hle hlog)
      omega

/-- Numbers of up to 53 bits fill their significands without being rounded. -/
theorem wholeSignificand_of_short {n : Nat} (h : n.log2 ≤ 52) :
    wholeSignificand n = n * 2 ^ (52 - n.log2) := by
  rw [wholeSignificand, Nat.sub_eq_zero_of_le h, Nat.pow_zero, roundedQuotient_one]

theorem wholeBits_lt {m n : Nat} (h : m < n) (hn : n ≤ 2 ^ 53) : wholeBits m < wholeBits n := by
  have hsize : fractionSize = 2 ^ 52 := rfl
  have hn0 : n ≠ 0 := by omega
  have hnb := wholeSignificand_bounds hn0
  have hshort : m.log2 ≤ 52 := by
    by_cases hm : m = 0
    · simp [hm]
    · have hlog := (Nat.log2_lt hm).mpr (show m < 2 ^ 53 by omega)
      omega
  by_cases hm : m = 0
  · rw [wholeBits, wholeBits, if_pos hm, if_neg hn0, hsize, Nat.add_mul]
    omega
  · have hmb := wholeSignificand_bounds hm
    rw [wholeBits, wholeBits, if_neg hm, if_neg hn0]
    have hle := log2_mono hm (Nat.le_of_lt h)
    by_cases hlog : m.log2 = n.log2
    · have hs : wholeSignificand m < wholeSignificand n := by
        rw [wholeSignificand_of_short hshort, wholeSignificand_of_short (hlog ▸ hshort), hlog]
        exact Nat.mul_lt_mul_of_pos_right h (Nat.two_pow_pos _)
      rw [hlog]
      omega
    · -- a significand that is not rounded stays below the next exponent step
      have hs : wholeSignificand m < 2 * fractionSize := by
        rw [wholeSignificand_of_short hshort]
        calc m * 2 ^ (52 - m.log2) < 2 ^ (m.log2 + 1) * 2 ^ (52 - m.log2) :=
              Nat.mul_lt_mul_of_pos_right Nat.lt_log2_self (Nat.two_pow_pos _)
          _ = 2 * fractionSize := by
              rw [← Nat.pow_add, show m.log2 + 1 + (52 - m.log2) = 53 by omega]
              rfl
      have hstep := exponent_step (Nat.lt_of_le_of_ne hle hlog)
      omega

/-! ## Signs -/

theorem rank_ofMagnitude {m : Nat} (h : m ≤ infinityBits) (negative : Bool) :
    (ofMagnitude negative m).rank = if negative then -(m : Int) else m := by
  have hlt : m < signSize := Nat.lt_of_le_of_lt h (by decide)
  have hsign : (ofMagnitude negative m).isNegative = negative := by
    have hsize : signSize = 2 ^ 63 := rfl
    rw [ofMagnitude, isNegative, UInt64.toNat_ofNat']
    rw [hsize] at hlt ⊢
    cases negative <;> simp <;> omega
  rw [rank, hsign, magnitude_ofMagnitude hlt]

theorem rank_ofInt (x : Int) :
    (ofInt x).rank =
      if x < 0 then -((min (wholeBits x.natAbs) infinityBits : Nat) : Int)
      else (min (wholeBits x.natAbs) infinityBits : Nat) := by
  rw [ofInt, nearest_one, rank_ofMagnitude (Nat.min_le_right _ _)]
  simp only [decide_eq_true_eq]

/-- Rounding keeps the order of whole numbers, though not the difference between them. -/
theorem rank_ofInt_mono {x y : Int} (h : x ≤ y) : (ofInt x).rank ≤ (ofInt y).rank := by
  rw [rank_ofInt, rank_ofInt]
  by_cases hx : x < 0
  · by_cases hy : y < 0
    · have hbits : wholeBits y.natAbs ≤ wholeBits x.natAbs := wholeBits_mono (by omega)
      simp only [hx, hy, if_true]
      omega
    · simp only [hx, hy, if_true, if_false]
      omega
  · have hy : ¬y < 0 := by omega
    have hbits : wholeBits x.natAbs ≤ wholeBits y.natAbs := wholeBits_mono (by omega)
    simp only [hx, hy, if_false]
    omega

theorem wholeBits_lt_infinityBits {n : Nat} (h : n ≤ 2 ^ 53) : wholeBits n < infinityBits :=
  Nat.lt_of_le_of_lt (wholeBits_mono h) (by decide +kernel)

theorem rank_ofInt_lt {x y : Int} (h : x < y) (hx : x.natAbs ≤ 2 ^ 53) (hy : y.natAbs ≤ 2 ^ 53) :
    (ofInt x).rank < (ofInt y).rank := by
  have hxi := wholeBits_lt_infinityBits hx
  have hyi := wholeBits_lt_infinityBits hy
  rw [rank_ofInt, rank_ofInt]
  by_cases hxn : x < 0
  · by_cases hyn : y < 0
    · have hbits : wholeBits y.natAbs < wholeBits x.natAbs := wholeBits_lt (by omega) hx
      simp only [hxn, hyn, if_true]
      omega
    · have hbits : wholeBits 0 < wholeBits x.natAbs := wholeBits_lt (by omega) hx
      simp only [hxn, hyn, if_true, if_false]
      omega
  · have hyn : ¬y < 0 := by omega
    have hbits : wholeBits x.natAbs < wholeBits y.natAbs := wholeBits_lt (by omega) hy
    simp only [hxn, hyn, if_false]
    omega

end Binary64
end RecordRules
