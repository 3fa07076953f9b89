import RecordRules.Compile.Flat
import RecordRules.Conventions
import RecordRules.Text.Blank

/-!
# RecordRules.Compile.Owned

Compiling rules over attributes that belong to owners. A condition that the conventions route to
the owner is one on the owner's fields, and does not hold where the way to the owner is broken.
Any other condition is one on the attribute's own fields. Such a predicate never fails on a
record.
-/

namespace RecordRules

variable {α β : Type}

inductive OwnedTest where
  | own (test : FieldTest)
  | owner (test : FieldTest)

def OwnedTest.evaluate (t : AttributeType α β) (a : α) : OwnedTest → Except RuleError Bool
  | .own test => test.evaluate t.toRecordType a
  | .owner test =>
    match t.owner a with
    | some b => test.evaluate t.ownerType b
    | none => .ok false

namespace Owned

/-- A condition on the owner's field with a given name. -/
def ownerLeaf (owner : RecordType β) (name : String) (c : Condition) :
    Except RuleError OwnedTest :=
  if Text.allBlank name.toList then .error (.invalidArgument (.blankOwnerField c.field))
  else
    match owner.fieldTest name c.value c.operator with
    | .error e => .error e
    | .ok test => .ok (.owner test)

def leaf (conventions : Conventions) (t : AttributeType α β) (c : Condition) :
    Except RuleError OwnedTest :=
  match conventions.ownerField? c.field with
  | some name => ownerLeaf t.ownerType name c
  | none =>
    match Flat.leaf t.toRecordType c with
    | .error e => .error e
    | .ok test => .ok (.own test)

def leafLog (conventions : Conventions) (c : Condition) : List LogLine :=
  match conventions.ownerField? c.field with
  | some name =>
    if Text.allBlank name.toList then []
    else [⟨.trace, s!"owner condition on field '{name}'"⟩]
  | none => []

/-- The predicate of a rule on attributes. -/
def compile (conventions : Conventions) (t : AttributeType α β) (r : Rule) :
    Except RuleError (Predicate α) :=
  match r.formula (leaf conventions t) with
  | .error e => .error e
  | .ok f => .ok ⟨t.name, fun a => f.evaluate (OwnedTest.evaluate t a)⟩

def filter (conventions : Conventions) (t : AttributeType α β) (r : Rule) (as : List α) :
    Except RuleError (List α) :=
  Predicate.filterWith (compile conventions t r) as

def compileLog (conventions : Conventions) (t : AttributeType α β) (r : Rule) : List LogLine :=
  r.openingLine "attribute matrix" t.name ::
    r.formulaLog (leaf conventions t) (leafLog conventions)

end Owned
end RecordRules
