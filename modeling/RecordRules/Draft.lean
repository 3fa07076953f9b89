import RecordRules.Rule

/-!
# RecordRules.Draft

Rules as they are handed over, with operators by token and nothing checked yet. `RuleDraft.check`
turns a draft into a rule or gives the first fault, reading a rule's operator, its conditions, its
nested rules and then the rule itself.
-/

namespace RecordRules

structure ConditionDraft where
  field : String
  token : String
  value : Constant

inductive RuleDraft where
  | node (token : String) (conditions : List ConditionDraft) (nested : List RuleDraft)

/-- The operator with a token, or the error that names the token. -/
def Operator.named (token : String) : Except RuleError Operator :=
  match Operator.ofToken? token with
  | some op => .ok op
  | none => .error (.unsupportedOperator (.unknownToken token))

namespace ConditionDraft

def check (d : ConditionDraft) : Except RuleError Condition :=
  match Operator.named d.token with
  | .error e => .error e
  | .ok op => Condition.make d.field op d.value

def checkAll : List ConditionDraft → Except RuleError (List Condition)
  | [] => .ok []
  | d :: ds =>
    match d.check with
    | .error e => .error e
    | .ok c =>
      match checkAll ds with
      | .error e => .error e
      | .ok cs => .ok (c :: cs)

end ConditionDraft

namespace RuleDraft

mutual

def check : RuleDraft → Except RuleError Rule
  | .node token conditions nested =>
    match Operator.named token with
    | .error e => .error e
    | .ok op =>
      match ConditionDraft.checkAll conditions with
      | .error e => .error e
      | .ok cs =>
        match checkAll nested with
        | .error e => .error e
        | .ok rs => Rule.make op cs rs

def checkAll : List RuleDraft → Except RuleError (List Rule)
  | [] => .ok []
  | d :: ds =>
    match check d with
    | .error e => .error e
    | .ok r =>
      match checkAll ds with
      | .error e => .error e
      | .ok rs => .ok (r :: rs)

end

end RuleDraft
end RecordRules
