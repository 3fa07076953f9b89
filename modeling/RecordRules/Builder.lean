import RecordRules.Draft

/-!
# RecordRules.Builder

Rules built step by step. Every step is checked when it is taken and leaves the builder as it was
when it fails, so what `build` gives is always a valid rule.
-/

namespace RecordRules

/-- The level of a rule under construction. -/
structure Builder where
  operator : Operator
  conditions : List Condition
  nested : List Rule

/-- One step of a construction program, with operators by token. A group builds a rule of its own,
from the start, and adds it. -/
inductive BuildStep where
  | combineWith (token : String)
  | condition (field token : String) (value : Literal)
  | rule (draft : RuleDraft)
  | group (steps : List BuildStep)

namespace Builder

/-- An empty level whose expressions must all hold. -/
def empty : Builder :=
  ⟨.and, [], []⟩

def build (b : Builder) : Rule :=
  .node b.operator b.conditions b.nested

def combineWith (b : Builder) (op : Operator) : Except RuleError Builder :=
  if op.isLogical then .ok { b with operator := op }
  else .error (.unsupportedOperator (.notLogical op))

/-- The constant stored for a literal: text operators keep the text of a value as a pattern,
membership keeps a list, the other comparisons keep one value. -/
def constantFor (field : String) (op : Operator) : Literal → Except RuleError Constant
  | .null => .error (.invalidArgument (.missingValue field))
  | .scalar s =>
    if op.kind = .text then .ok (.pattern (String.ofList s.rendered))
    else if op.isMembership then .error (.invalidArgument (.needsList op field))
    else .ok (.single s)
  | .list items =>
    if op.isMembership then .ok (.array items)
    else .error (.invalidArgument (.takesSingle op field))

def addCondition (b : Builder) (field : String) (op : Operator) (value : Literal) :
    Except RuleError Builder :=
  if Text.allBlank field.toList then .error (.invalidArgument .blankField)
  else if op.isLogical then .error (.unsupportedOperator (.notForCondition op))
  else
    match constantFor field op value with
    | .error e => .error e
    | .ok constant =>
      match Condition.make field op constant with
      | .error e => .error e
      | .ok c => .ok { b with conditions := b.conditions ++ [c] }

def addRule (b : Builder) (r : Rule) : Builder :=
  { b with nested := b.nested ++ [r] }

mutual

def step (b : Builder) : BuildStep → Except RuleError Builder
  | .combineWith token =>
    match Operator.named token with
    | .error e => .error e
    | .ok op => b.combineWith op
  | .condition field token value =>
    match Operator.named token with
    | .error e => .error e
    | .ok op => b.addCondition field op value
  | .rule draft =>
    match draft.check with
    | .error e => .error e
    | .ok r => .ok (b.addRule r)
  | .group steps =>
    match run empty steps with
    | .error e => .error e
    | .ok inner => .ok (b.addRule inner.build)

/-- Takes steps in order, up to the first that fails. -/
def run (b : Builder) : List BuildStep → Except RuleError Builder
  | [] => .ok b
  | s :: steps =>
    match step b s with
    | .error e => .error e
    | .ok b' => run b' steps

end

end Builder
end RecordRules
