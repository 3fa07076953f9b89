import RecordRules.Error
import RecordRules.Text.Lower
import RecordRules.Text.Search

/-!
# RecordRules.Comparison

The tests on a field of a record. `comparison` checks once that the field's type, the constant and
the operator go together; the test it gives then never fails, whatever value it meets. A missing
value satisfies no test.

| operator | test | field |
| --- | --- | --- |
| equal, not equal | equality | any |
| greater, less and their weak forms | order | number |
| in list, not in list | membership | any |
| contains, contains ignoring case | search | text |
-/

namespace RecordRules

inductive ValueTest where
  | contains (ignoreCase : Bool) (pattern : String)
  | member (negated : Bool) (items : List Scalar)
  | relation (op : Operator) (constant : Scalar)

/-- The pattern occurs in the text; ignoring case, the lower-case pattern in the lower-case
text. -/
def containsText (ignoreCase : Bool) (pattern text : List Char) : Bool :=
  if ignoreCase then Text.occursIn (Text.lower pattern) (Text.lower text)
  else Text.occursIn pattern text

namespace ValueTest

def holds : ValueTest → Value → Bool
  | .contains ignoreCase pattern, .text s => containsText ignoreCase pattern.toList s.toList
  | .contains _ _, _ => false
  | .member _ _, .none => false
  | .member negated items, v => (items.any fun s => v.order? s.toValue == some .eq) != negated
  | .relation op constant, v =>
    match v.order? constant.toValue with
    | some o => op.holds o
    | none => false

/-- The test on a value whose reading may fail. -/
def evaluate {ε : Type} (t : ValueTest) : Except ε Value → Except ε Bool
  | .error e => .error e
  | .ok v => .ok (t.holds v)

end ValueTest

namespace Comparison

/-- A constant must have the field's type. -/
def checkType (field : String) (type : ValueType) (s : Scalar) : Except RuleError Unit :=
  if s.type = type then .ok ()
  else .error (.typeMismatch field (.constantType s.type type))

def checkTypes (field : String) (type : ValueType) : List Scalar → Except RuleError Unit
  | [] => .ok ()
  | s :: ss =>
    match checkType field type s with
    | .error e => .error e
    | .ok () => checkTypes field type ss

/-- A search in a text field, for a pattern or a text constant. -/
def textTest (field : String) (type : ValueType) (constant : Constant) (op : Operator) :
    Except RuleError ValueTest :=
  if type = .text then
    match constant with
    | .pattern p => .ok (.contains (op == .ilike) p)
    | .single (.text p) => .ok (.contains (op == .ilike) p)
    | _ => .error (.typeMismatch field (.needsPattern op))
  else .error (.typeMismatch field (.needsTextField op type))

/-- A membership test in a list of constants of the field's type. -/
def membershipTest (field : String) (type : ValueType) (constant : Constant) (op : Operator) :
    Except RuleError ValueTest :=
  match constant with
  | .array items =>
    match checkTypes field type items with
    | .error e => .error e
    | .ok () => .ok (.member (op == .absent) items)
  | _ => .error (.typeMismatch field (.needsArray op))

/-- A comparison with one constant of the field's type; only numbers have an order. -/
def relationTest (field : String) (type : ValueType) (constant : Constant) (op : Operator) :
    Except RuleError ValueTest :=
  match constant with
  | .single s =>
    match checkType field type s with
    | .error e => .error e
    | .ok () =>
      if op.isOrdering && type != .number then
        .error (.typeMismatch field (.undefinedFor op type))
      else .ok (.relation op s)
  | _ => .error (.typeMismatch field (.needsSingle op))

end Comparison

/-- The test of a field of a given type against a constant. -/
def comparison (field : String) (type : ValueType) (constant : Constant) (op : Operator) :
    Except RuleError ValueTest :=
  match op.kind with
  | .logical => .error (.unsupportedOperator (.cannotCompareField op field))
  | .text => Comparison.textTest field type constant op
  | .comparison =>
    if op.isMembership then Comparison.membershipTest field type constant op
    else Comparison.relationTest field type constant op

end RecordRules
