import RecordRules.Formula
import RecordRules.Rule

/-!
# RecordRules.Compile.Tree

Compiling a rule to a formula, given how a single condition is compiled. A rule compiles its
conditions, then its nested rules, and joins the results under its operator; the first fault in
that order is the answer.

`Rule.formulaLog` reports the same walk: a line before each condition, what the condition itself
reports, and nothing behind a fault.
-/

namespace RecordRules
namespace Rule

variable {L : Type}

def conditionTests (leaf : Condition → Except RuleError L) :
    List Condition → Except RuleError (List (Formula L))
  | [] => .ok []
  | c :: cs =>
    if c.operator.isLogical then .error (.unsupportedOperator (.notForCondition c.operator))
    else
      match leaf c with
      | .error e => .error e
      | .ok l =>
        match conditionTests leaf cs with
        | .error e => .error e
        | .ok fs => .ok (.test l :: fs)

mutual

def formula (leaf : Condition → Except RuleError L) : Rule → Except RuleError (Formula L)
  | .node op cs rs =>
    if op.isLogical then
      match conditionTests leaf cs with
      | .error e => .error e
      | .ok tests =>
        match formulas leaf rs with
        | .error e => .error e
        | .ok nested => Formula.combine op (tests ++ nested)
    else .error (.unsupportedOperator (.notLogical op))

def formulas (leaf : Condition → Except RuleError L) :
    List Rule → Except RuleError (List (Formula L))
  | [] => .ok []
  | r :: rs =>
    match formula leaf r with
    | .error e => .error e
    | .ok f =>
      match formulas leaf rs with
      | .error e => .error e
      | .ok fs => .ok (f :: fs)

end

/-- What compiling conditions reports, under the operator of their rule. -/
def conditionLog (leaf : Condition → Except RuleError L) (leafLog : Condition → List LogLine)
    (op : Operator) : List Condition → List LogLine
  | [] => []
  | c :: cs =>
    ⟨.trace, s!"compiling condition {c.field} {c.operator.token} under {op.token}"⟩ ::
      if c.operator.isLogical then []
      else
        leafLog c ++
          match leaf c with
          | .error _ => []
          | .ok _ => conditionLog leaf leafLog op cs

mutual

/-- What compiling a rule reports. -/
def formulaLog (leaf : Condition → Except RuleError L) (leafLog : Condition → List LogLine) :
    Rule → List LogLine
  | .node op cs rs =>
    if op.isLogical then
      conditionLog leaf leafLog op cs ++
        match conditionTests leaf cs with
        | .error _ => []
        | .ok _ => formulasLog leaf leafLog rs
    else []

def formulasLog (leaf : Condition → Except RuleError L) (leafLog : Condition → List LogLine) :
    List Rule → List LogLine
  | [] => []
  | r :: rs =>
    formulaLog leaf leafLog r ++
      match formula leaf r with
      | .error _ => []
      | .ok _ => formulasLog leaf leafLog rs

end

/-- The line that opens the compilation of a rule over records, where `what` says which kind of
rule it is read as. -/
def openingLine (r : Rule) (what record : String) : LogLine :=
  ⟨.debug, s!"compiling {r.operator.token} {what} over {record} ({r.arity} expressions)"⟩

end Rule
end RecordRules
