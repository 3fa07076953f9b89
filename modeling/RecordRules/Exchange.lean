import RecordRules.Json.Reading
import RecordRules.Json.Writing
import RecordRules.Rule

/-!
# RecordRules.Exchange

Rules as JSON documents. A rule is an object with its operator, its conditions and its nested
rules, or a list of the three; a condition is an object or a list of its field, operator and
constant; a constant is an object with its shape as the only key.

A document is looked at from left to right. A condition is checked when its end is reached, and so
is a rule, so that the first fault met is the answer. A fault is either one of the document's form
or one that the checks of conditions and rules find.
-/

namespace RecordRules

inductive ExchangeFault where
  | malformed
  | refused (error : RuleError)

namespace Exchange

/-- An operator, as its token or as an object with the token as its only key and nothing under
it. -/
def operatorOf : Json → Except ExchangeFault Operator
  | .text token =>
    match Operator.ofToken? token with
    | some op => .ok op
    | none => .error .malformed
  | .object [(some token, .null)] =>
    match Operator.ofToken? token with
    | some op => .ok op
    | none => .error .malformed
  | _ => .error .malformed

def scalarOf : Json → Except ExchangeFault Scalar
  | .text s => .ok (.text s)
  | .bool b => .ok (.bool b)
  | .integer n =>
    match Number.ofInt? n with
    | some k => .ok (.number k)
    | none => .error .malformed
  | .float x => .ok (.number (.float x))
  | _ => .error .malformed

def scalarsOf : List Json → Except ExchangeFault (List Scalar)
  | [] => .ok []
  | v :: vs =>
    match scalarOf v with
    | .error e => .error e
    | .ok s =>
      match scalarsOf vs with
      | .error e => .error e
      | .ok ss => .ok (s :: ss)

def constantOf : Json → Except ExchangeFault Constant
  | .object [(some key, v)] =>
    if key = "single" then
      match scalarOf v with
      | .error e => .error e
      | .ok s => .ok (.single s)
    else if key = "array" then
      match v with
      | .list items =>
        match scalarsOf items with
        | .error e => .error e
        | .ok ss => .ok (.array ss)
      | _ => .error .malformed
    else if key = "pattern" then
      match v with
      | .text p => .ok (.pattern p)
      | _ => .error .malformed
    else .error .malformed
  | _ => .error .malformed

def textOf : Json → Except ExchangeFault String
  | .text s => .ok s
  | _ => .error .malformed

/-- Fills an empty place with what was read; a place is filled only once. -/
def filled {α : Type} (place : Option α) (value : Except ExchangeFault α) :
    Except ExchangeFault (Option α) :=
  if place.isSome then .error .malformed
  else
    match value with
    | .error e => .error e
    | .ok a => .ok (some a)

/-- What the keys of a condition have given so far. -/
structure ConditionParts where
  field : Option String
  operator : Option Operator
  value : Option Constant

/-- A checked condition, once all its parts are there. -/
def ConditionParts.finish (p : ConditionParts) : Except ExchangeFault Condition :=
  match p.field, p.operator, p.value with
  | some field, some op, some value =>
    match Condition.make field op value with
    | .error e => .error (.refused e)
    | .ok c => .ok c
  | _, _, _ => .error .malformed

/-- Takes one entry of a condition; other keys are passed over. -/
def ConditionParts.take (p : ConditionParts) (key : String) (v : Json) :
    Except ExchangeFault ConditionParts :=
  if key = "field" then
    match filled p.field (textOf v) with
    | .error e => .error e
    | .ok field => .ok { p with field := field }
  else if key = "operator" then
    match filled p.operator (operatorOf v) with
    | .error e => .error e
    | .ok op => .ok { p with operator := op }
  else if key = "value" then
    match filled p.value (constantOf v) with
    | .error e => .error e
    | .ok value => .ok { p with value := value }
  else if v.intact then .ok p
  else .error .malformed

def conditionEntries (p : ConditionParts) :
    List (Option String × Json) → Except ExchangeFault ConditionParts
  | [] => .ok p
  | (none, _) :: _ => .error .malformed
  | (some key, v) :: es =>
    match p.take key v with
    | .error e => .error e
    | .ok p => conditionEntries p es

def conditionOf : Json → Except ExchangeFault Condition
  | .object entries =>
    match conditionEntries ⟨none, none, none⟩ entries with
    | .error e => .error e
    | .ok p => p.finish
  | .list [field, op, value] =>
    match textOf field with
    | .error e => .error e
    | .ok field =>
      match operatorOf op with
      | .error e => .error e
      | .ok op =>
        match constantOf value with
        | .error e => .error e
        | .ok value => ConditionParts.finish ⟨some field, some op, some value⟩
  | _ => .error .malformed

def conditionsOf : List Json → Except ExchangeFault (List Condition)
  | [] => .ok []
  | v :: vs =>
    match conditionOf v with
    | .error e => .error e
    | .ok c =>
      match conditionsOf vs with
      | .error e => .error e
      | .ok cs => .ok (c :: cs)

def conditionListOf : Json → Except ExchangeFault (List Condition)
  | .list items => conditionsOf items
  | _ => .error .malformed

/-- What the keys of a rule have given so far. -/
structure RuleParts where
  operator : Option Operator
  conditions : Option (List Condition)
  nested : Option (List Rule)

/-- A checked rule. Only the operator has to be there. -/
def RuleParts.finish (p : RuleParts) : Except ExchangeFault Rule :=
  match p.operator with
  | none => .error .malformed
  | some op =>
    match Rule.make op (p.conditions.getD []) (p.nested.getD []) with
    | .error e => .error (.refused e)
    | .ok r => .ok r

mutual

def ruleOf : Json → Except ExchangeFault Rule
  | .object entries =>
    match ruleEntries ⟨none, none, none⟩ entries with
    | .error e => .error e
    | .ok p => p.finish
  | .list items =>
    match items with
    | [] => .error .malformed
    | op :: items =>
      match operatorOf op with
      | .error e => .error e
      | .ok op =>
        match items with
        | [] => RuleParts.finish ⟨some op, none, none⟩
        | conditions :: items =>
          match conditionListOf conditions with
          | .error e => .error e
          | .ok cs =>
            match items with
            | [] => RuleParts.finish ⟨some op, some cs, none⟩
            | nested :: items =>
              match ruleListOf nested with
              | .error e => .error e
              | .ok rs =>
                match items with
                | [] => RuleParts.finish ⟨some op, some cs, some rs⟩
                | _ :: _ => .error .malformed
  | _ => .error .malformed

/-- Takes the entries of a rule in order; other keys are passed over. -/
def ruleEntries (p : RuleParts) : List (Option String × Json) → Except ExchangeFault RuleParts
  | [] => .ok p
  | (key, v) :: es =>
    match key with
    | none => .error .malformed
    | some key =>
      if key = "logical_operator" then
        match filled p.operator (operatorOf v) with
        | .error e => .error e
        | .ok op => ruleEntries { p with operator := op } es
      else if key = "conditions" then
        match filled p.conditions (conditionListOf v) with
        | .error e => .error e
        | .ok cs => ruleEntries { p with conditions := cs } es
      else if key = "nested" then
        match filled p.nested (ruleListOf v) with
        | .error e => .error e
        | .ok rs => ruleEntries { p with nested := rs } es
      else if v.intact then ruleEntries p es
      else .error .malformed

def ruleListOf : Json → Except ExchangeFault (List Rule)
  | .list items => rulesOf items
  | _ => .error .malformed

def rulesOf : List Json → Except ExchangeFault (List Rule)
  | [] => .ok []
  | v :: vs =>
    match ruleOf v with
    | .error e => .error e
    | .ok r =>
      match rulesOf vs with
      | .error e => .error e
      | .ok rs => .ok (r :: rs)

end

def ofScalar : Scalar → Json
  | .text s => .text s
  | .bool b => .bool b
  | .number (.signed n) => .integer n.toInt
  | .number (.unsigned n) => .integer n.toNat
  | .number (.float x) => if x.isFinite then .float x else .null

def ofConstant : Constant → Json
  | .single s => .object [(some "single", ofScalar s)]
  | .array items => .object [(some "array", .list (items.map ofScalar))]
  | .pattern p => .object [(some "pattern", .text p)]

def ofCondition (c : Condition) : Json :=
  .object [(some "field", .text c.field), (some "operator", .text c.operator.token),
    (some "value", ofConstant c.value)]

mutual

def ofRule : Rule → Json
  | .node op cs rs =>
    .object [(some "logical_operator", .text op.token),
      (some "conditions", .list (cs.map ofCondition)), (some "nested", .list (ofRules rs))]

def ofRules : List Rule → List Json
  | [] => []
  | r :: rs => ofRule r :: ofRules rs

end

/-- The rule in a JSON text. Nothing may follow it. -/
def read (text : String) : Except ExchangeFault Rule :=
  let (v, complete) := Json.read text.toList
  match ruleOf v with
  | .error e => .error e
  | .ok r => if complete then .ok r else .error .malformed

def write (r : Rule) : String :=
  String.ofList (ofRule r).write

end Exchange
end RecordRules
