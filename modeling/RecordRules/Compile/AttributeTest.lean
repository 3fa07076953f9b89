import RecordRules.Comparison
import RecordRules.Text.Blank

/-!
# RecordRules.Compile.AttributeTest

The tests on an attribute's value, which is stored as text. Order needs numbers on both sides, so
a value that is none makes the test fail; everything else compares the text of the constant.
-/

namespace RecordRules

inductive AttributeTest where
  | order (op : Operator) (bound : Number)
  | equals (negated : Bool) (text : String)
  | member (negated : Bool) (texts : List String)
  | contains (ignoreCase : Bool) (pattern : String)

namespace AttributeTest

def evaluate : AttributeTest → String → Except RuleError Bool
  | .order op bound, stored =>
    match Number.read? stored.toList with
    | none => .error (.numericParse stored)
    | some n =>
      match n.order? bound with
      | some o => .ok (op.holds o)
      | none => .ok false
  | .equals negated text, stored => .ok ((stored == text) != negated)
  | .member negated texts, stored => .ok ((texts.any fun t => t == stored) != negated)
  | .contains ignoreCase pattern, stored =>
    .ok (containsText ignoreCase pattern.toList stored.toList)

def literal (s : Scalar) : String :=
  String.ofList s.rendered

/-- The one constant an operator needs. -/
def single (key : String) (op : Operator) : Constant → Except RuleError Scalar
  | .single s => .ok s
  | _ => .error (.typeMismatch key (.needsSingle op))

/-- The test of an operator and a constant on the values under a key. -/
def make (key : String) (op : Operator) (constant : Constant) : Except RuleError AttributeTest :=
  match op with
  | .gt | .lt | .gte | .lte =>
    match single key op constant with
    | .error e => .error e
    | .ok s =>
      match Number.read? s.rendered with
      | some bound => .ok (.order op bound)
      | none => .error (.numericParse (literal s))
  | .eq | .neq =>
    match single key op constant with
    | .error e => .error e
    | .ok s => .ok (.equals (op == .neq) (literal s))
  | .member | .absent =>
    match constant with
    | .array items => .ok (.member (op == .absent) (items.map literal))
    | _ => .error (.typeMismatch key (.needsArray op))
  | .like | .ilike =>
    match constant with
    | .pattern p => .ok (.contains (op == .ilike) p)
    | .single s => .ok (.contains (op == .ilike) (literal s))
    | .array _ => .error (.typeMismatch key (.needsPattern op))
  | .and | .or | .not => .error (.unsupportedOperator (.cannotCompareAttribute op key))

end AttributeTest
end RecordRules
