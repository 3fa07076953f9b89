import RecordRules.Number
import RecordRules.Text.Order

/-!
# RecordRules.Value

The values a record's fields hold and the constants a rule compares them with: text, numbers and
truth values. A field may also hold no value. Values of different types stand in no order.
-/

namespace RecordRules

/-- The type of a field or a constant. -/
inductive ValueType where
  | text
  | number
  | bool
deriving DecidableEq

namespace ValueType

def name : ValueType → String
  | .text => "text"
  | .number => "number"
  | .bool => "bool"

end ValueType

inductive Scalar where
  | text (s : String)
  | number (n : Number)
  | bool (b : Bool)
deriving DecidableEq

/-- What a field holds. -/
inductive Value where
  | text (s : String)
  | number (n : Number)
  | bool (b : Bool)
  | none
deriving DecidableEq

/-- What a caller hands over as the constant of a condition, before its shape is checked. -/
inductive Literal where
  | null
  | scalar (s : Scalar)
  | list (items : List Scalar)

namespace Scalar

def type : Scalar → ValueType
  | .text _ => .text
  | .number _ => .number
  | .bool _ => .bool

def rendered : Scalar → List Char
  | .text s => s.toList
  | .number n => n.text
  | .bool true => ['t', 'r', 'u', 'e']
  | .bool false => ['f', 'a', 'l', 's', 'e']

def toValue : Scalar → Value
  | .text s => .text s
  | .number n => .number n
  | .bool b => .bool b

/-- Equality of constants; numbers agree as in `Number.same`. -/
def same : Scalar → Scalar → Bool
  | .text a, .text b => a == b
  | .number a, .number b => a.same b
  | .bool a, .bool b => a == b
  | _, _ => false

end Scalar

namespace Value

def isNone : Value → Bool
  | .none => true
  | _ => false

/-- False comes before true. -/
def boolOrder : Bool → Bool → Ordering
  | false, true => .lt
  | true, false => .gt
  | _, _ => .eq

/-- The order of two values of one type; a missing value stands in no order. -/
def order? : Value → Value → Option Ordering
  | .text a, .text b => some (Text.order a.toList b.toList)
  | .number a, .number b => a.order? b
  | .bool a, .bool b => some (boolOrder a b)
  | _, _ => Option.none

/-- Equality of values; numbers agree as in `Number.same`, and two missing values are equal. -/
def same : Value → Value → Bool
  | .text a, .text b => a == b
  | .number a, .number b => a.same b
  | .bool a, .bool b => a == b
  | .none, .none => true
  | _, _ => false

end Value
end RecordRules
