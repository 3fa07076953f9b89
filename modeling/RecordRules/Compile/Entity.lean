import RecordRules.Compile.AttributeTest
import RecordRules.Compile.Flat
import RecordRules.Conventions

/-!
# RecordRules.Compile.Entity

Compiling rules over entities with linked attributes. A condition that the conventions route to an
attribute key holds of an entity when some attribute of some link has that key and a value that
satisfies the condition; the attributes are tried in order, link after link, up to the first that
does or the first that fails. Any other condition is one on the entity's own fields.
-/

namespace RecordRules

variable {α : Type}

inductive EntityTest where
  | own (test : FieldTest)
  | linked (key : String) (test : AttributeTest)

namespace EntityTest

/-- The first attribute with the key whose value satisfies the test, or fails it, decides. -/
def anyAttribute (key : String) (test : AttributeTest) :
    List StoredAttribute → Except RuleError Bool
  | [] => .ok false
  | a :: as =>
    if a.key = key then
      match test.evaluate a.value with
      | .error e => .error e
      | .ok true => .ok true
      | .ok false => anyAttribute key test as
    else anyAttribute key test as

def anyLink (key : String) (test : AttributeTest) :
    List (List StoredAttribute) → Except RuleError Bool
  | [] => .ok false
  | link :: links =>
    match anyAttribute key test link with
    | .error e => .error e
    | .ok true => .ok true
    | .ok false => anyLink key test links

def evaluate (t : EntityType α) (a : α) : EntityTest → Except RuleError Bool
  | .own test => test.evaluate t.toRecordType a
  | .linked key test => anyLink key test (t.links a)

end EntityTest

namespace Entities

/-- A condition on the attributes with a key. -/
def linkedLeaf (key : String) (c : Condition) : Except RuleError EntityTest :=
  if Text.allBlank key.toList then .error (.invalidArgument (.blankKey c.field))
  else
    match AttributeTest.make key c.operator c.value with
    | .error e => .error e
    | .ok test => .ok (.linked key test)

def leaf (conventions : Conventions) (t : EntityType α) (c : Condition) :
    Except RuleError EntityTest :=
  match conventions.attributeKey? c.field with
  | some key => linkedLeaf key c
  | none =>
    match Flat.leaf t.toRecordType c with
    | .error e => .error e
    | .ok test => .ok (.own test)

/-- What compiling a condition reports of its own. -/
def leafLog (conventions : Conventions) (c : Condition) : List LogLine :=
  match conventions.attributeKey? c.field with
  | some key =>
    if Text.allBlank key.toList then []
    else [⟨.trace, s!"attribute condition on key '{key}'"⟩]
  | none => []

/-- The predicate of a rule on entities. -/
def compile (conventions : Conventions) (t : EntityType α) (r : Rule) :
    Except RuleError (Predicate α) :=
  match r.formula (leaf conventions t) with
  | .error e => .error e
  | .ok f => .ok ⟨t.name, fun a => f.evaluate (EntityTest.evaluate t a)⟩

def filter (conventions : Conventions) (t : EntityType α) (r : Rule) (as : List α) :
    Except RuleError (List α) :=
  Predicate.filterWith (compile conventions t r) as

def compileLog (conventions : Conventions) (t : EntityType α) (r : Rule) : List LogLine :=
  r.openingLine "entity matrix" t.name ::
    r.formulaLog (leaf conventions t) (leafLog conventions)

end Entities
end RecordRules
