import RecordRules.Operator
import RecordRules.Value

/-!
# RecordRules.Constant

The constant of a condition: one value, a list of values, or a text pattern. Which of the three
belongs to an operator is fixed by what the operator does.
-/

namespace RecordRules

inductive Constant where
  | single (s : Scalar)
  | array (items : List Scalar)
  | pattern (p : String)
deriving DecidableEq

inductive ConstantShape where
  | single
  | array
  | pattern
deriving DecidableEq

namespace ConstantShape

def name : ConstantShape → String
  | .single => "single value"
  | .array => "array"
  | .pattern => "pattern"

end ConstantShape

namespace Constant

def shape : Constant → ConstantShape
  | .single _ => .single
  | .array _ => .array
  | .pattern _ => .pattern

/-- The operators a constant can stand beside: lists with membership, patterns with text search,
single values with the other comparisons. -/
def fits (c : Constant) (op : Operator) : Bool :=
  match c with
  | .array _ => op.isMembership
  | .pattern _ => op.kind == .text
  | .single _ => op.kind == .comparison && !op.isMembership

def sameItems : List Scalar → List Scalar → Bool
  | [], [] => true
  | a :: as, b :: bs => a.same b && sameItems as bs
  | _, _ => false

/-- Equality of constants; numbers agree as in `Number.same`. -/
def same : Constant → Constant → Bool
  | .single a, .single b => a.same b
  | .array as, .array bs => sameItems as bs
  | .pattern p, .pattern q => p == q
  | _, _ => false

end Constant
end RecordRules
