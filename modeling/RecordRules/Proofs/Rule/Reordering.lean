import RecordRules.Proofs.Lists
import RecordRules.Proofs.Rule.Checks
import RecordRules.Proofs.Rule.Meaning

/-!
# RecordRules.Proofs.Rule.Reordering

Rules that differ in the order of conditions and of nested rules only, at any level. `Reordered`
rules have the same rules in them up to order (`forall_subrules_iff`), so one is valid and accepted
if the other is, and they hold of the same conditions (`holds_iff`).
-/

namespace RecordRules

namespace Rule

/-- The same rule but for the order of conditions and of nested rules at every level. -/
inductive Reordered : Rule → Rule → Prop where
  | node {op : Operator} {cs cs' : List Condition} {rs ms rs' : List Rule}
      (conditions : cs.Perm cs') (nested : List.Forall₂ Reordered rs ms) (order : ms.Perm rs') :
      Reordered (.node op cs rs) (.node op cs' rs')

namespace Reordered

variable {r r' : Rule}

theorem operator_eq (h : r.Reordered r') : r.operator = r'.operator := by
  cases h
  rfl

theorem conditions_perm (h : r.Reordered r') : r.conditions.Perm r'.conditions := by
  cases h with
  | node conditions nested order => exact conditions

theorem arity_eq (h : r.Reordered r') : r.arity = r'.arity := by
  cases h with
  | node conditions nested order =>
    have hn : List.length _ = List.length _ := nested.length_eq.trans order.length_eq
    simp only [arity, Rule.conditions, Rule.nested, conditions.length_eq, hn]

theorem exists_nested_right (h : r.Reordered r') :
    ∀ n ∈ r.nested, ∃ m ∈ r'.nested, n.Reordered m := by
  cases h with
  | node conditions nested order =>
    intro n hn
    obtain ⟨m, hm, hnm⟩ := exists_mem_of_forall₂ nested n hn
    exact ⟨m, order.mem_iff.mp hm, hnm⟩

theorem exists_nested_left (h : r.Reordered r') :
    ∀ m ∈ r'.nested, ∃ n ∈ r.nested, n.Reordered m := by
  cases h with
  | node conditions nested order =>
    intro m hm
    exact exists_mem_of_forall₂ nested.flip m (order.mem_iff.mpr hm)

/-! ## The rules in a rule -/

theorem exists_subrule_right (h : r.Reordered r') :
    ∀ d ∈ r.subrules, ∃ d' ∈ r'.subrules, d.Reordered d' := by
  induction r generalizing r' with
  | node op cs rs ih =>
    rw [subrules_eq, subrules_eq]
    intro d hd
    rcases List.mem_cons.mp hd with rfl | hd
    · exact ⟨r', List.mem_cons_self, h⟩
    · obtain ⟨n, hn, hdn⟩ := List.mem_flatMap.mp hd
      obtain ⟨m, hm, hnm⟩ := h.exists_nested_right n hn
      obtain ⟨d', hd', hdd'⟩ := ih n hn hnm d hdn
      exact ⟨d', List.mem_cons_of_mem _ (List.mem_flatMap.mpr ⟨m, hm, hd'⟩), hdd'⟩

theorem exists_subrule_left (h : r.Reordered r') :
    ∀ d' ∈ r'.subrules, ∃ d ∈ r.subrules, d.Reordered d' := by
  induction r' generalizing r with
  | node op cs rs ih =>
    rw [subrules_eq, subrules_eq]
    intro d' hd'
    rcases List.mem_cons.mp hd' with rfl | hd'
    · exact ⟨r, List.mem_cons_self, h⟩
    · obtain ⟨m, hm, hdm⟩ := List.mem_flatMap.mp hd'
      obtain ⟨n, hn, hnm⟩ := h.exists_nested_left m hm
      obtain ⟨d, hd, hdd'⟩ := ih m hm hnm d' hdm
      exact ⟨d, List.mem_cons_of_mem _ (List.mem_flatMap.mpr ⟨n, hn, hd⟩), hdd'⟩

/-- What does not depend on order holds of all rules in one rule if it does of those in the
other. -/
theorem forall_subrules_iff {P : Rule → Prop} (hP : ∀ d d', Reordered d d' → (P d ↔ P d'))
    (h : r.Reordered r') : (∀ d ∈ r.subrules, P d) ↔ ∀ d ∈ r'.subrules, P d := by
  constructor
  · intro hall d' hd'
    obtain ⟨d, hd, hdd'⟩ := h.exists_subrule_left d' hd'
    exact (hP d d' hdd').mp (hall d hd)
  · intro hall d hd
    obtain ⟨d', hd', hdd'⟩ := h.exists_subrule_right d hd
    exact (hP d d' hdd').mpr (hall d' hd')

theorem forall_conditions_iff {P : Condition → Prop} (h : r.Reordered r') :
    (∀ c ∈ r.conditions, P c) ↔ ∀ c ∈ r'.conditions, P c :=
  forall_congr' fun _ => imp_congr_left h.conditions_perm.mem_iff

theorem valid_iff (h : r.Reordered r') : r.Valid ↔ r'.Valid := by
  rw [Rule.valid_iff, Rule.valid_iff]
  refine h.forall_subrules_iff fun d d' hd => ?_
  rw [hd.operator_eq, hd.forall_conditions_iff]

theorem accepted_iff {good : Condition → Prop} (h : r.Reordered r') :
    r.Accepted good ↔ r'.Accepted good := by
  refine h.forall_subrules_iff fun d d' hd => ?_
  rw [hd.operator_eq, hd.arity_eq, hd.forall_conditions_iff]

/-! ## Meaning -/

theorem forall_expressions_iff {P : Expression → Prop} (h : r.Reordered r')
    (hP : ∀ n ∈ r.nested, ∀ m, n.Reordered m → (P (.rule n) ↔ P (.rule m))) :
    (∀ x ∈ r.expressions, P x) ↔ ∀ x ∈ r'.expressions, P x := by
  rw [forall_mem_expressions, forall_mem_expressions, h.forall_conditions_iff]
  refine and_congr_right fun _ => ⟨fun hall m hm => ?_, fun hall n hn => ?_⟩
  · obtain ⟨n, hn, hnm⟩ := h.exists_nested_left m hm
    exact (hP n hn m hnm).mp (hall n hn)
  · obtain ⟨m, hm, hnm⟩ := h.exists_nested_right n hn
    exact (hP n hn m hnm).mpr (hall m hm)

theorem exists_expressions_iff {P : Expression → Prop} (h : r.Reordered r')
    (hP : ∀ n ∈ r.nested, ∀ m, n.Reordered m → (P (.rule n) ↔ P (.rule m))) :
    (∃ x ∈ r.expressions, P x) ↔ ∃ x ∈ r'.expressions, P x := by
  have hall : (∀ x ∈ r.expressions, ¬P x) ↔ ∀ x ∈ r'.expressions, ¬P x :=
    h.forall_expressions_iff fun n hn m hm => not_congr (hP n hn m hm)
  simpa using not_congr hall

theorem expressions_eq_nil_iff (h : r.Reordered r') : r.expressions = [] ↔ r'.expressions = [] := by
  rw [← List.length_eq_zero_iff, ← List.length_eq_zero_iff, length_expressions, length_expressions,
    h.arity_eq]

/-- Order does not change whether a rule holds. -/
theorem holds_iff {holds : Condition → Prop} (h : r.Reordered r') :
    r.Holds holds ↔ r'.Holds holds := by
  induction r generalizing r' with
  | node op cs rs ih =>
    have hx : ∀ n ∈ (Rule.node op cs rs).nested, ∀ m, n.Reordered m →
        (Expression.Holds holds (.rule n) ↔ Expression.Holds holds (.rule m)) :=
      fun n hn m hnm => ih n hn hnm
    have hop := h.operator_eq
    cases op with
    | and =>
      rw [holds_iff_of_and rfl, holds_iff_of_and hop.symm]
      exact h.forall_expressions_iff hx
    | or =>
      rw [holds_iff_of_or rfl, holds_iff_of_or hop.symm, h.expressions_eq_nil_iff]
      exact or_congr_right (h.exists_expressions_iff hx)
    | not =>
      rw [holds_iff_of_not rfl, holds_iff_of_not hop.symm]
      exact not_congr (h.exists_expressions_iff hx)
    | _ =>
      -- what does not combine holds of nothing, in any order
      cases h
      exact Iff.rfl

end Reordered
end Rule
end RecordRules
