import RecordRules.Compile.Tree
import RecordRules.Comparison
import RecordRules.Predicate
import RecordRules.Record

/-!
# RecordRules.Compile.Flat

Compiling rules whose conditions name fields of the record itself. Such a predicate never fails on
a record.
-/

namespace RecordRules

variable {α : Type}

/-- A test of one field of a record. -/
structure FieldTest where
  field : String
  test : ValueTest

/-- The test of the field with a given name, which must be in the schema. -/
def RecordType.fieldTest (t : RecordType α) (field : String) (value : Constant) (op : Operator) :
    Except RuleError FieldTest :=
  match fieldType? t.schema field with
  | none => .error (.unknownField field t.name)
  | some type =>
    match comparison field type value op with
    | .error e => .error e
    | .ok test => .ok ⟨field, test⟩

def FieldTest.evaluate (f : FieldTest) (t : RecordType α) (a : α) : Except RuleError Bool :=
  f.test.evaluate (.ok (t.read a f.field))

namespace Flat

def leaf (t : RecordType α) (c : Condition) : Except RuleError FieldTest :=
  t.fieldTest c.field c.value c.operator

/-- The predicate of a rule on records. -/
def compile (t : RecordType α) (r : Rule) : Except RuleError (Predicate α) :=
  match r.formula (leaf t) with
  | .error e => .error e
  | .ok f => .ok ⟨t.name, fun a => f.evaluate fun test => test.evaluate t a⟩

def filter (t : RecordType α) (r : Rule) (as : List α) : Except RuleError (List α) :=
  Predicate.filterWith (compile t r) as

def compileLog (t : RecordType α) (r : Rule) : List LogLine :=
  r.openingLine "matrix" t.name :: r.formulaLog (leaf t) fun _ => []

end Flat
end RecordRules
