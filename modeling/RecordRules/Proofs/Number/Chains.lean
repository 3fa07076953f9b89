import RecordRules.Proofs.Number.Integer
import RecordRules.Proofs.Number.Rounding

/-!
# RecordRules.Proofs.Number.Chains

The order of numbers along chains, whatever their representations.

Numbers are compared in two scales, the whole numbers themselves and the ranks of their rounded
values. Rounding keeps the order (`rank_le_of_le`), so what is smaller in one scale is never larger
in the other, and a chain that goes down stays one across the scales. A chain of equal numbers may
break: a floating-point value equals every whole number that is rounded to it.
-/

namespace RecordRules
namespace Binary64

theorem order?_eq_some_iff {x y : Binary64} {o : Ordering} :
    x.order? y = some o ↔ x.isNaN = false ∧ y.isNaN = false ∧ compare x.rank y.rank = o := by
  cases hx : x.isNaN with
  | true => simp [order?, hx]
  | false =>
    cases hy : y.isNaN with
    | true => simp [order?, hx, hy]
    | false =>
      have horder : x.order? y = some (compare x.rank y.rank) := by
        rw [order?, hx, hy, ← Number.intOrder_eq, Number.intOrder]
        simp only [Bool.or_self, Bool.false_eq_true, if_false]
        split
        · rfl
        · split <;> rfl
      simp [horder]

end Binary64

namespace Number

/-! ## Two scales -/

/-- Where a number stands among the floating-point values, after rounding. -/
def rank (n : Number) : Int :=
  n.toBinary64.rank

theorem toBinary64_of_integer? {n : Number} {x : Int} (h : n.integer? = some x) :
    n.toBinary64 = Binary64.ofInt x := by
  cases n <;> cases h <;> rfl

theorem isNaN_of_integer? {n : Number} {x : Int} (h : n.integer? = some x) : n.isNaN = false := by
  cases n <;> cases h <;> rfl

section Pair

variable {a b : Number} {x y : Int}

theorem rank_le_of_le (ha : a.integer? = some x) (hb : b.integer? = some y) (h : x ≤ y) :
    a.rank ≤ b.rank := by
  rw [rank, rank, toBinary64_of_integer? ha, toBinary64_of_integer? hb]
  exact Binary64.rank_ofInt_mono h

theorem rank_lt_of_lt (ha : a.integer? = some x) (hb : b.integer? = some y) (h : x < y)
    (hx : x.natAbs ≤ 2 ^ 53) (hy : y.natAbs ≤ 2 ^ 53) : a.rank < b.rank := by
  rw [rank, rank, toBinary64_of_integer? ha, toBinary64_of_integer? hb]
  exact Binary64.rank_ofInt_lt h hx hy

theorem order?_of_float (h : a.integer? = none ∨ b.integer? = none) :
    a.order? b = a.toBinary64.order? b.toBinary64 := by
  cases a <;> cases b <;> first | rfl | simp [integer?] at h

/-- With a floating-point value on one side, ranks are compared. -/
theorem order?_eq_some_iff_of_float (h : a.integer? = none ∨ b.integer? = none) {o : Ordering} :
    a.order? b = some o ↔ a.isNaN = false ∧ b.isNaN = false ∧ compare a.rank b.rank = o := by
  rw [order?_of_float h, Binary64.order?_eq_some_iff, isNaN_toBinary64, isNaN_toBinary64]
  rfl

theorem order?_eq_lt_iff :
    a.order? b = some .lt ↔ a.isNaN = false ∧ b.isNaN = false ∧
      (a.rank < b.rank ∨ ∃ x y, a.integer? = some x ∧ b.integer? = some y ∧ x < y) := by
  cases ha : a.integer? with
  | none =>
    rw [order?_eq_some_iff_of_float (.inl ha), Std.compare_eq_lt]
    simp
  | some x =>
    cases hb : b.integer? with
    | none =>
      rw [order?_eq_some_iff_of_float (.inr hb), Std.compare_eq_lt]
      simp
    | some y =>
      -- a smaller rank is a smaller number, since rounding keeps the order
      have hrank : a.rank < b.rank → x < y := by
        intro h
        by_cases hlt : x < y
        · exact hlt
        · have hback := rank_le_of_le hb ha (Int.not_lt.mp hlt)
          omega
      rw [order?_of_integer? ha hb, Option.some.injEq, Std.compare_eq_lt]
      simpa [isNaN_of_integer? ha, isNaN_of_integer? hb] using hrank

theorem order?_eq_eq_iff :
    a.order? b = some .eq ↔ a.isNaN = false ∧ b.isNaN = false ∧
      a.rank = b.rank ∧ ∀ x y, a.integer? = some x → b.integer? = some y → x = y := by
  cases ha : a.integer? with
  | none =>
    rw [order?_eq_some_iff_of_float (.inl ha), Std.compare_eq_iff_eq]
    simp
  | some x =>
    cases hb : b.integer? with
    | none =>
      rw [order?_eq_some_iff_of_float (.inr hb), Std.compare_eq_iff_eq]
      simp
    | some y =>
      have hrank : x = y → a.rank = b.rank := by
        intro h
        rw [rank, rank, toBinary64_of_integer? ha, toBinary64_of_integer? hb, h]
      rw [order?_of_integer? ha hb, Option.some.injEq, Std.compare_eq_iff_eq]
      simpa [isNaN_of_integer? ha, isNaN_of_integer? hb] using hrank

end Pair

/-! ## Chains of three -/

/-- Two different whole numbers with a floating-point value between them. -/
def Bridged (a b c : Number) : Prop :=
  b.integer? = none ∧ ∃ x z, a.integer? = some x ∧ c.integer? = some z ∧ x ≠ z

/-- A whole number that floating-point values can tell from its neighbours, or none at all. -/
def Short (n : Number) : Prop :=
  ∀ x, n.integer? = some x → x.natAbs ≤ 2 ^ 53

section Chain

variable {a b c : Number}

theorem order?_lt_trans (hab : a.order? b = some .lt) (hbc : b.order? c = some .lt) :
    a.order? c = some .lt := by
  obtain ⟨hna, -, hab⟩ := order?_eq_lt_iff.mp hab
  obtain ⟨-, hnc, hbc⟩ := order?_eq_lt_iff.mp hbc
  refine order?_eq_lt_iff.mpr ⟨hna, hnc, ?_⟩
  rcases hab with hab | ⟨x, y, hx, hy, hxy⟩
  · rcases hbc with hbc | ⟨y, z, hy, hz, hyz⟩
    · exact .inl (Int.lt_trans hab hbc)
    · exact .inl (Int.lt_of_lt_of_le hab (rank_le_of_le hy hz (Int.le_of_lt hyz)))
  · rcases hbc with hbc | ⟨y', z, hy', hz, hyz⟩
    · exact .inl (Int.lt_of_le_of_lt (rank_le_of_le hx hy (Int.le_of_lt hxy)) hbc)
    · rw [hy, Option.some.injEq] at hy'
      exact .inr ⟨x, z, hx, hz, Int.lt_trans hxy (hy' ▸ hyz)⟩

theorem order?_eq_trans_iff (hab : a.order? b = some .eq) (hbc : b.order? c = some .eq) :
    a.order? c = some .eq ↔ ¬Bridged a b c := by
  obtain ⟨hna, -, hrab, hiab⟩ := order?_eq_eq_iff.mp hab
  obtain ⟨-, hnc, hrbc, hibc⟩ := order?_eq_eq_iff.mp hbc
  constructor
  · intro hac hbridged
    obtain ⟨-, -, -, hiac⟩ := order?_eq_eq_iff.mp hac
    obtain ⟨-, x, z, hx, hz, hne⟩ := hbridged
    exact hne (hiac x z hx hz)
  · intro hnot
    refine order?_eq_eq_iff.mpr ⟨hna, hnc, hrab.trans hrbc, ?_⟩
    intro x z hx hz
    cases hy : b.integer? with
    | none => exact Decidable.byContradiction fun hne => hnot ⟨hy, x, z, hx, hz, hne⟩
    | some y => exact (hiab x y hx hy).trans (hibc y z hy hz)

theorem not_bridged_of_short (ha : Short a) (hc : Short c) (hab : a.order? b = some .eq)
    (hbc : b.order? c = some .eq) : ¬Bridged a b c := by
  rintro ⟨-, x, z, hx, hz, hne⟩
  obtain ⟨-, -, hrab, -⟩ := order?_eq_eq_iff.mp hab
  obtain ⟨-, -, hrbc, -⟩ := order?_eq_eq_iff.mp hbc
  rcases Int.lt_or_gt_of_ne hne with hlt | hlt
  · have hrank := rank_lt_of_lt hx hz hlt (ha x hx) (hc z hz)
    omega
  · have hrank := rank_lt_of_lt hz hx hlt (hc z hz) (ha x hx)
    omega

end Chain

/-- Chains that go down stay ordered in any mix of representations. Chains of equal numbers stay
equal unless a floating-point value stands between two different whole numbers, which takes one
beyond `2 ^ 53`. -/
theorem order?_along_chain (a b c : Number) :
    (a.order? b = some .lt → b.order? c = some .lt → a.order? c = some .lt) ∧
    (a.order? b = some .eq → b.order? c = some .eq →
      (a.order? c = some .eq ↔ ¬Bridged a b c) ∧
      (Short a → Short c → a.order? c = some .eq)) := by
  refine ⟨order?_lt_trans, ?_⟩
  intro hab hbc
  have hiff := order?_eq_trans_iff hab hbc
  refine ⟨hiff, ?_⟩
  intro ha hc
  exact hiff.mpr (not_bridged_of_short ha hc hab hbc)

/-- A chain that goes down through a floating-point value beyond `2 ^ 53`, one of equal numbers at
`2 ^ 53`, and one from the largest signed number to the next whole number. -/
theorem order?_along_chain_beyond :
    (signed 9007199254740992).order? (unsigned 9007199254740995) = some .lt ∧
    (signed 9007199254740992).order? (unsigned 9007199254740992) = some .eq ∧
    (signed Int64.maxValue).order? (float ⟨0x43E0000000000000⟩) = some .eq ∧
    (float ⟨0x43E0000000000000⟩).order? (unsigned 0x8000000000000000) = some .eq ∧
    ((signed Int64.maxValue).order? (unsigned 0x8000000000000000) = some .eq ↔
      ¬Bridged (signed Int64.maxValue) (float ⟨0x43E0000000000000⟩)
        (unsigned 0x8000000000000000)) := by
  have hlt := (order?_along_chain (signed 9007199254740992) (float ⟨0x4340000000000001⟩)
    (unsigned 9007199254740995)).1 (by decide +kernel) (by decide +kernel)
  have heq := (order?_along_chain (signed 9007199254740992) (float ⟨0x4340000000000000⟩)
    (unsigned 9007199254740992)).2 (by decide +kernel) (by decide +kernel)
  have hshort := heq.2 (by rintro x ⟨⟩; decide) (by rintro x ⟨⟩; decide)
  have hab : (signed Int64.maxValue).order? (float ⟨0x43E0000000000000⟩) = some .eq := by
    decide +kernel
  have hbc : (float ⟨0x43E0000000000000⟩).order? (unsigned 0x8000000000000000) = some .eq := by
    decide +kernel
  exact ⟨hlt, hshort, hab, hbc, ((order?_along_chain _ _ _).2 hab hbc).1⟩

/-- Not every chain of equal numbers has equal ends: `2 ^ 53 + 1` is rounded to `2 ^ 53`. -/
theorem not_order?_eq_trans :
    ¬∀ a b c : Number, a.isNaN = false → b.isNaN = false → c.isNaN = false →
      a.order? b = some .eq → b.order? c = some .eq → a.order? c = some .eq := by
  intro h
  have hac := h (signed 9007199254740993) (float ⟨0x4340000000000000⟩) (signed 9007199254740992)
    rfl (by decide +kernel) rfl (by decide +kernel) (by decide +kernel)
  revert hac
  decide +kernel

end Number
end RecordRules
