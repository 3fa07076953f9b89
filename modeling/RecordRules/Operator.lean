/-!
# RecordRules.Operator

The closed catalogue of operators. Eight compare a field with a constant, two search in text, and
three combine conditions. An operator is written as its token, an underscore followed by a word;
inside a stored condition the underscore is left out.
-/

namespace RecordRules

inductive Operator where
  | eq
  | neq
  | gt
  | lt
  | gte
  | lte
  | member
  | absent
  | like
  | ilike
  | and
  | or
  | not
deriving DecidableEq

inductive OperatorKind where
  | comparison
  | text
  | logical
deriving DecidableEq

namespace Operator

/-- Every operator, in catalogue order. -/
def all : List Operator :=
  [.eq, .neq, .gt, .lt, .gte, .lte, .member, .absent, .like, .ilike, .and, .or, .not]

/-- The token without its leading underscore. -/
def suffix : Operator → String
  | .eq => "eq"
  | .neq => "neq"
  | .gt => "gt"
  | .lt => "lt"
  | .gte => "gte"
  | .lte => "lte"
  | .member => "in"
  | .absent => "nin"
  | .like => "like"
  | .ilike => "ilike"
  | .and => "and"
  | .or => "or"
  | .not => "not"

/-- The written form of an operator. -/
def token (op : Operator) : String :=
  "_" ++ op.suffix

def ofToken? (token : String) : Option Operator :=
  all.find? fun op => op.token == token

def description : Operator → String
  | .eq => "Equal to"
  | .neq => "Not equal to"
  | .gt => "Greater than"
  | .lt => "Less than"
  | .gte => "Greater than or equal to"
  | .lte => "Less than or equal to"
  | .member => "In list"
  | .absent => "Not in list"
  | .like => "Contains text"
  | .ilike => "Contains text, ignoring case"
  | .and => "All must match"
  | .or => "Any must match"
  | .not => "Must not match"

def kind : Operator → OperatorKind
  | .eq | .neq | .gt | .lt | .gte | .lte | .member | .absent => .comparison
  | .like | .ilike => .text
  | .and | .or | .not => .logical

/-- Combines conditions. -/
def isLogical (op : Operator) : Bool :=
  op.kind == .logical

/-- Asks for an order, so it needs numbers. -/
def isOrdering : Operator → Bool
  | .gt | .lt | .gte | .lte => true
  | _ => false

def isMembership : Operator → Bool
  | .member | .absent => true
  | _ => false

/-- Whether two values that stand in the given order satisfy the operator. Operators that do not
relate two values hold of none. -/
def holds (op : Operator) (o : Ordering) : Bool :=
  match op with
  | .eq => o == .eq
  | .neq => o != .eq
  | .gt => o == .gt
  | .gte => o != .lt
  | .lt => o == .lt
  | .lte => o != .gt
  | _ => false

theorem ofToken?_token (op : Operator) : ofToken? op.token = some op := by
  cases op <;> decide

theorem token_of_ofToken? {t : String} {op : Operator} (h : ofToken? t = some op) :
    op.token = t := by
  simpa using List.find?_some h

theorem ofToken?_eq_some_iff {t : String} {op : Operator} :
    ofToken? t = some op ↔ op.token = t :=
  ⟨token_of_ofToken?, fun h => h ▸ ofToken?_token op⟩

end Operator
end RecordRules
