import RecordRules.Error
import RecordRules.Text.Blank

/-!
# RecordRules.Rule

Rules over records. A condition compares one field with a constant; a rule combines conditions and
further rules under a logical operator, to any depth.

`Condition.make` and `Rule.make` check what they are given; `Rule.Valid` says what they guarantee
of a whole tree.
-/

namespace RecordRules

structure Condition where
  field : String
  operator : Operator
  value : Constant
deriving DecidableEq

inductive Rule where
  | node (operator : Operator) (conditions : List Condition) (nested : List Rule)

namespace Condition

/-- A condition names a field, uses an operator that compares, and gives it a constant of the shape
it takes. -/
structure Valid (c : Condition) : Prop where
  field_named : Text.allBlank c.field.toList = false
  operator_compares : c.operator.isLogical = false
  value_fits : c.value.fits c.operator = true

/-- A checked condition: first the field, then the operator, then the constant. -/
def make (field : String) (op : Operator) (value : Constant) : Except RuleError Condition :=
  if Text.allBlank field.toList then .error (.invalidArgument .blankField)
  else if op.isLogical then .error (.unsupportedOperator (.notForCondition op))
  else if value.fits op then .ok ⟨field, op, value⟩
  else .error (.invalidArgument (.wrongShape op value.shape field))

/-- Equality of conditions; numbers agree as in `Number.same`. -/
def same (a b : Condition) : Bool :=
  a.field == b.field && a.operator == b.operator && a.value.same b.value

theorem make_eq_ok_iff {field : String} {op : Operator} {value : Constant} {c : Condition} :
    make field op value = .ok c ↔ c = ⟨field, op, value⟩ ∧ c.Valid := by
  unfold make
  constructor
  · intro h
    split at h
    · cases h
    · rename_i hf
      split at h
      · cases h
      · rename_i ho
        split at h
        · rename_i hv
          cases h
          exact ⟨rfl, by simpa using hf, by simpa using ho, hv⟩
        · cases h
  · rintro ⟨rfl, hf, ho, hv⟩
    simp_all

end Condition

namespace Rule

def operator : Rule → Operator
  | .node op _ _ => op

def conditions : Rule → List Condition
  | .node _ cs _ => cs

def nested : Rule → List Rule
  | .node _ _ rs => rs

/-- A checked rule: its operator must combine. -/
def make (op : Operator) (conditions : List Condition) (nested : List Rule) :
    Except RuleError Rule :=
  if op.isLogical then .ok (.node op conditions nested)
  else .error (.unsupportedOperator (.notLogical op))

theorem make_eq_ok_iff {op : Operator} {cs : List Condition} {rs : List Rule} {r : Rule} :
    make op cs rs = .ok r ↔ r = .node op cs rs ∧ op.isLogical = true := by
  rw [make]
  constructor
  · intro h
    split at h
    · rename_i hl
      cases h
      exact ⟨rfl, hl⟩
    · cases h
  · rintro ⟨rfl, hl⟩
    rw [if_pos hl]

/-- The number of expressions a rule combines. -/
def arity (r : Rule) : Nat :=
  r.conditions.length + r.nested.length

mutual

/-- No condition at any depth. -/
def isEmpty : Rule → Bool
  | .node _ cs rs => cs.isEmpty && allEmpty rs

def allEmpty : List Rule → Bool
  | [] => true
  | r :: rs => isEmpty r && allEmpty rs

end

def sameConditions : List Condition → List Condition → Bool
  | [], [] => true
  | a :: as, b :: bs => a.same b && sameConditions as bs
  | _, _ => false

mutual

/-- Equality of rules; numbers agree as in `Number.same`. -/
def same : Rule → Rule → Bool
  | .node op cs rs, .node op' cs' rs' => op == op' && sameConditions cs cs' && sameAll rs rs'

def sameAll : List Rule → List Rule → Bool
  | [], [] => true
  | r :: rs, r' :: rs' => same r r' && sameAll rs rs'
  | _, _ => false

end

/-- Every condition at every depth is valid, and every operator that combines is logical. -/
inductive Valid : Rule → Prop where
  | node {op : Operator} {cs : List Condition} {rs : List Rule}
      (combines : op.isLogical = true)
      (conditions_valid : ∀ c ∈ cs, c.Valid)
      (nested_valid : ∀ r ∈ rs, Valid r) : Valid (.node op cs rs)

end Rule
end RecordRules
