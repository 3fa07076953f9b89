import RecordRules.Rule

/-!
# RecordRules.Proofs.Rule.Shape

Which constants stand beside which operators in a valid condition: a pattern beside a search, a list
beside a membership, a single value beside every other comparison.
-/

namespace RecordRules

namespace Operator

theorem kind_of_not_text {op : Operator} (hl : op.isLogical = false) (hk : op.kind ≠ .text) :
    op.kind = .comparison := by
  cases h : op.kind with
  | comparison => rfl
  | text => exact absurd h hk
  | logical => rw [isLogical, h] at hl; cases hl

theorem kind_of_isMembership {op : Operator} (h : op.isMembership = true) :
    op.kind = .comparison := by
  cases op with
  | member => rfl
  | absent => rfl
  | _ => cases h

theorem isMembership_iff {op : Operator} : op.isMembership = true ↔ op = .member ∨ op = .absent := by
  cases op <;> simp [isMembership]

theorem not_isMembership_of_text {op : Operator} (h : op.kind = .text) :
    op.isMembership = false := by
  revert h
  cases op <;> decide

theorem not_isOrdering_of_isMembership {op : Operator} (h : op.isMembership = true) :
    op.isOrdering = false := by
  revert h
  cases op <;> decide

theorem comparison_of_isOrdering {op : Operator} (h : op.isOrdering = true) :
    op.kind = .comparison ∧ op.isMembership = false := by
  revert h
  cases op <;> decide

theorem eq_or_neq {op : Operator} (hk : op.kind = .comparison) (hm : op.isMembership = false)
    (ho : op.isOrdering = false) : op = .eq ∨ op = .neq := by
  revert hk hm ho
  cases op <;> decide

end Operator

namespace Condition.Valid

variable {c : Condition}

/-- The three kinds of valid conditions, by the shape of their constants. -/
theorem shape (hv : c.Valid) :
    (∃ p, c.value = .pattern p ∧ c.operator.kind = .text) ∨
    (∃ items, c.value = .array items ∧ c.operator.kind = .comparison ∧
      c.operator.isMembership = true) ∨
    (∃ s, c.value = .single s ∧ c.operator.kind = .comparison ∧
      c.operator.isMembership = false) := by
  obtain ⟨field, op, v⟩ := c
  have hfits : v.fits op = true := hv.value_fits
  cases v with
  | pattern p => exact .inl ⟨p, rfl, by simpa [Constant.fits] using hfits⟩
  | array items =>
    have hm : op.isMembership = true := hfits
    exact .inr (.inl ⟨items, rfl, Operator.kind_of_isMembership hm, hm⟩)
  | single s =>
    simp only [Constant.fits, Bool.and_eq_true, beq_iff_eq, Bool.not_eq_true'] at hfits
    exact .inr (.inr ⟨s, rfl, hfits⟩)

theorem pattern_of_text (hv : c.Valid) (h : c.operator.kind = .text) :
    ∃ p, c.value = .pattern p := by
  obtain ⟨p, hval, -⟩ | ⟨items, -, hk, -⟩ | ⟨s, -, hk, -⟩ := hv.shape
  · exact ⟨p, hval⟩
  · rw [h] at hk
    cases hk
  · rw [h] at hk
    cases hk

theorem single_of_comparison (hv : c.Valid) (h : c.operator.kind = .comparison)
    (hm : c.operator.isMembership = false) : ∃ s, c.value = .single s := by
  obtain ⟨p, -, hk⟩ | ⟨items, -, -, hm'⟩ | ⟨s, hval, -, -⟩ := hv.shape
  · rw [h] at hk
    cases hk
  · rw [hm] at hm'
    cases hm'
  · exact ⟨s, hval⟩

theorem array_of_membership (hv : c.Valid) (h : c.operator.isMembership = true) :
    ∃ items, c.value = .array items := by
  obtain ⟨p, -, hk⟩ | ⟨items, hval, -, -⟩ | ⟨s, -, -, hm⟩ := hv.shape
  · rw [Operator.kind_of_isMembership h] at hk
    cases hk
  · exact ⟨items, hval⟩
  · rw [h] at hm
    cases hm

end Condition.Valid

end RecordRules
