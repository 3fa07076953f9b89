import RecordRules.Constant

/-!
# RecordRules.Error

Everything that can go wrong while a rule is built, read, compiled or evaluated. Each kind of error
carries its cause; `message` words it. Only the first fault is ever reported.

Log lines report what a reading or a compilation went through up to that fault. They are computed
beside the result and never decide it.
-/

namespace RecordRules

/-- An argument that is empty, absent or of the wrong shape. -/
inductive ArgumentFault where
  | blankField
  | wrongShape (op : Operator) (shape : ConstantShape) (field : String)
  | missingValue (field : String)
  | needsList (op : Operator) (field : String)
  | takesSingle (op : Operator) (field : String)
  | blankKey (field : String)
  | blankOwnerField (field : String)
  | emptyMarker
  | unwritableNumericField (field : String)
deriving DecidableEq

/-- An unknown operator, or one that does not belong where it stands. -/
inductive OperatorFault where
  | unknownToken (token : String)
  | notForCondition (op : Operator)
  | notLogical (op : Operator)
  | cannotCompareField (op : Operator) (field : String)
  | cannotCompareAttribute (op : Operator) (key : String)
  | cannotCombine (op : Operator)
deriving DecidableEq

/-- Why a field, a constant and an operator do not go together. -/
inductive Mismatch where
  | needsTextField (op : Operator) (type : ValueType)
  | needsPattern (op : Operator)
  | needsArray (op : Operator)
  | needsSingle (op : Operator)
  | undefinedFor (op : Operator) (type : ValueType)
  | constantType (constant field : ValueType)
deriving DecidableEq

/-- A stored text that is not a rule. Positions are counted in bytes. -/
inductive ParseFault where
  | nothingStored
  | emptyText
  | unbalanced (position : Nat)
  | stray (c : Char) (position : Nat)
  | unclosed
  | noGroups
  | noOpening (group : String)
  | wrongParts (group : String)
  | blankField (group : String)
  | unknownSuffix (suffix group : String)
  | notANumber (text field : String)
deriving DecidableEq

inductive RuleError where
  | invalidArgument (fault : ArgumentFault)
  | unsupportedOperator (fault : OperatorFault)
  | typeMismatch (field : String) (reason : Mismatch)
  | invalidArity (op : Operator) (expected actual : Nat)
  | unknownField (field record : String)
  | parse (fault : ParseFault)
  | numericParse (text : String)
  | config
deriving DecidableEq

namespace ArgumentFault

def message : ArgumentFault → String
  | .blankField => "condition field must not be empty"
  | .wrongShape op shape field =>
    s!"{op.token} does not accept a {shape.name} (field '{field}')"
  | .missingValue field => s!"value for '{field}' must not be empty"
  | .needsList op field => s!"{op.token} on '{field}' requires a list of values"
  | .takesSingle op field => s!"{op.token} on '{field}' takes a single value, not a list"
  | .blankKey field => s!"attribute key in '{field}' must not be empty"
  | .blankOwnerField field => s!"entity field in '{field}' must not be empty"
  | .emptyMarker => "codec.query_marker must not be empty"
  | .unwritableNumericField field =>
    s!"codec.numeric_field '{field}' cannot appear in a serialized condition"

end ArgumentFault

namespace OperatorFault

def message : OperatorFault → String
  | .unknownToken token => token
  | .notForCondition op => s!"{op.token} cannot be used in a condition"
  | .notLogical op => s!"{op.token} is not a logical operator"
  | .cannotCompareField op field => s!"{op.token} cannot compare field '{field}'"
  | .cannotCompareAttribute op key => s!"{op.token} cannot compare attribute '{key}'"
  | .cannotCombine op => s!"{op.token} cannot combine expressions"

end OperatorFault

namespace Mismatch

def message : Mismatch → String
  | .needsTextField op type => s!"{op.token} needs a text field, found {type.name}"
  | .needsPattern op => s!"{op.token} needs a text pattern"
  | .needsArray op => s!"{op.token} needs an array constant"
  | .needsSingle op => s!"{op.token} needs a single constant"
  | .undefinedFor op type => s!"{op.token} is not defined for {type.name} fields"
  | .constantType constant field =>
    s!"{constant.name} constant cannot be compared with a {field.name} field"

end Mismatch

namespace ParseFault

def message : ParseFault → String
  | .nothingStored => "no stored query"
  | .emptyText => "query text is empty"
  | .unbalanced position => s!"unbalanced ']' at byte {position}"
  | .stray c position => s!"unexpected '{c}' outside a group at byte {position}"
  | .unclosed => "unclosed '[' at end of query"
  | .noGroups => "query has no groups"
  | .noOpening group => s!"query must start with a logical operator group, found [{group}]"
  | .wrongParts group => s!"condition [{group}] must have the form field_operator_value"
  | .blankField group => s!"condition [{group}] has no field"
  | .unknownSuffix suffix group => s!"unknown operator '{suffix}' in [{group}]"
  | .notANumber text field => s!"value '{text}' for numeric field '{field}' is not a number"

end ParseFault

namespace RuleError

def message : RuleError → String
  | .invalidArgument fault => s!"invalid argument: {fault.message}"
  | .unsupportedOperator fault => s!"unsupported operator: {fault.message}"
  | .typeMismatch field reason => s!"type mismatch on '{field}': {reason.message}"
  | .invalidArity op expected actual =>
    s!"operator '{op.token}' expects {expected} expression(s), got {actual}"
  | .unknownField field record => s!"unknown field '{field}' on {record}"
  | .parse fault => s!"parse error: {fault.message}"
  | .numericParse text => s!"cannot parse '{text}' as a number"
  | .config => "invalid configuration"

end RuleError

/-! ## Log lines -/

inductive LogLevel where
  | debug
  | trace
deriving DecidableEq

structure LogLine where
  level : LogLevel
  text : String
deriving DecidableEq

def LogLine.render (l : LogLine) : String :=
  match l.level with
  | .debug => "DEBUG " ++ l.text
  | .trace => "TRACE " ++ l.text

end RecordRules
