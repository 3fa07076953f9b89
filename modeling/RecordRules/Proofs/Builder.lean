import RecordRules.Builder
import RecordRules.Proofs.Rule.Subrules

/-!
# RecordRules.Proofs.Builder

What drafts and construction programs come to. A draft that passes its check is a valid rule. One
step of a program keeps the level under construction sound (`valid_of_step`), so a whole program
does, groups of steps at any depth included (`valid_of_run`).
-/

namespace RecordRules

/-! ## Drafts -/

theorem ConditionDraft.valid_of_check {d : ConditionDraft} {c : Condition} (h : d.check = .ok c) :
    c.Valid := by
  rw [check] at h
  split at h
  · cases h
  · exact (Condition.make_eq_ok_iff.mp h).2

theorem ConditionDraft.valid_of_checkAll {ds : List ConditionDraft} {cs : List Condition}
    (h : checkAll ds = .ok cs) : ∀ c ∈ cs, c.Valid := by
  induction ds generalizing cs with
  | nil =>
    cases h
    simp
  | cons d ds ih =>
    rw [checkAll] at h
    split at h
    · cases h
    · rename_i c hc
      split at h
      · cases h
      · rename_i hcs
        cases h
        exact List.forall_mem_cons.mpr ⟨valid_of_check hc, ih hcs⟩

namespace RuleDraft

mutual

theorem valid_of_check : ∀ (d : RuleDraft) {r : Rule}, d.check = .ok r → r.Valid
  | .node token conditions nested, r, h => by
    rw [check] at h
    split at h
    · cases h
    · split at h
      · cases h
      · rename_i hcs
        split at h
        · cases h
        · rename_i hrs
          obtain ⟨rfl, hl⟩ := Rule.make_eq_ok_iff.mp h
          exact .node hl (ConditionDraft.valid_of_checkAll hcs) (valid_of_checkAll nested hrs)

theorem valid_of_checkAll : ∀ (ds : List RuleDraft) {rs : List Rule},
    checkAll ds = .ok rs → ∀ n ∈ rs, n.Valid
  | [], rs, h => by
    rw [checkAll] at h
    cases h
    simp
  | d :: ds, rs, h => by
    rw [checkAll] at h
    split at h
    · cases h
    · rename_i hr
      split at h
      · cases h
      · rename_i hrs
        cases h
        exact List.forall_mem_cons.mpr ⟨valid_of_check d hr, valid_of_checkAll ds hrs⟩

end

end RuleDraft

/-! ## Programs -/

namespace Builder

theorem valid_build_iff {b : Builder} :
    b.build.Valid ↔ b.operator.isLogical = true ∧ (∀ c ∈ b.conditions, c.Valid) ∧
      ∀ n ∈ b.nested, n.Valid := by
  constructor
  · intro h
    cases h with
    | node combines conditions_valid nested_valid =>
      exact ⟨combines, conditions_valid, nested_valid⟩
  · rintro ⟨combines, conditions_valid, nested_valid⟩
    exact .node combines conditions_valid nested_valid

theorem valid_empty : empty.build.Valid :=
  valid_build_iff.mpr ⟨rfl, by simp [empty], by simp [empty]⟩

variable {b b' : Builder}

theorem combineWith_eq_ok_iff {op : Operator} :
    b.combineWith op = .ok b' ↔ op.isLogical = true ∧ b' = { b with operator := op } := by
  rw [combineWith]
  constructor
  · intro h
    split at h
    · rename_i hl
      cases h
      exact ⟨hl, rfl⟩
    · cases h
  · rintro ⟨hl, rfl⟩
    rw [if_pos hl]

/-- A condition that is added was made from the constant of the literal, behind what was there. -/
theorem exists_of_addCondition {field : String} {op : Operator} {value : Literal}
    (h : b.addCondition field op value = .ok b') :
    ∃ constant c, constantFor field op value = .ok constant ∧
      Condition.make field op constant = .ok c ∧
      b' = { b with conditions := b.conditions ++ [c] } := by
  rw [addCondition] at h
  split at h
  · cases h
  · split at h
    · cases h
    · split at h
      · cases h
      · rename_i constant hconstant
        split at h
        · cases h
        · rename_i c hc
          cases h
          exact ⟨constant, c, hconstant, hc, rfl⟩

theorem valid_addRule (hb : b.build.Valid) {r : Rule} (hr : r.Valid) :
    (b.addRule r).build.Valid := by
  obtain ⟨combines, conditions_valid, nested_valid⟩ := valid_build_iff.mp hb
  refine valid_build_iff.mpr ⟨combines, conditions_valid, ?_⟩
  exact List.forall_mem_append.mpr ⟨nested_valid, List.forall_mem_singleton.mpr hr⟩

theorem valid_of_addCondition (hb : b.build.Valid) {field : String} {op : Operator}
    {value : Literal} (h : b.addCondition field op value = .ok b') : b'.build.Valid := by
  obtain ⟨combines, conditions_valid, nested_valid⟩ := valid_build_iff.mp hb
  obtain ⟨constant, c, -, hc, rfl⟩ := exists_of_addCondition h
  refine valid_build_iff.mpr ⟨combines, ?_, nested_valid⟩
  exact List.forall_mem_append.mpr
    ⟨conditions_valid, List.forall_mem_singleton.mpr (Condition.make_eq_ok_iff.mp hc).2⟩

theorem valid_of_combineWith (hb : b.build.Valid) {op : Operator} (h : b.combineWith op = .ok b') :
    b'.build.Valid := by
  obtain ⟨-, conditions_valid, nested_valid⟩ := valid_build_iff.mp hb
  obtain ⟨hl, rfl⟩ := combineWith_eq_ok_iff.mp h
  exact valid_build_iff.mpr ⟨hl, conditions_valid, nested_valid⟩

mutual

/-- One step keeps the level under construction sound. -/
theorem valid_of_step {b b' : Builder} (hb : b.build.Valid) :
    ∀ s : BuildStep, b.step s = .ok b' → b'.build.Valid
  | .combineWith token, h => by
    rw [step] at h
    split at h
    · cases h
    · exact valid_of_combineWith hb h
  | .condition field token value, h => by
    rw [step] at h
    split at h
    · cases h
    · exact valid_of_addCondition hb h
  | .rule draft, h => by
    rw [step] at h
    split at h
    · cases h
    · rename_i hr
      cases h
      exact valid_addRule hb (RuleDraft.valid_of_check draft hr)
  | .group steps, h => by
    rw [step] at h
    split at h
    · cases h
    · rename_i hinner
      cases h
      exact valid_addRule hb (valid_of_run valid_empty steps hinner)

/-- So does a program. -/
theorem valid_of_run {b b' : Builder} (hb : b.build.Valid) :
    ∀ steps : List BuildStep, b.run steps = .ok b' → b'.build.Valid
  | [], h => by
    rw [run] at h
    cases h
    exact hb
  | s :: steps, h => by
    rw [run] at h
    split at h
    · cases h
    · rename_i hs
      exact valid_of_run (valid_of_step hb s hs) steps h

end

end Builder
end RecordRules
