import RecordRules.Rule
import RecordRules.Text.Search

/-!
# RecordRules.Stored.Format

The text in which rules are stored: a run of groups in square brackets. A group with an operator
that combines opens a rule; every other group is a condition `field_suffix_value` of the rule last
opened. In a value a space is written as a tilde, and the items of a list are joined with bars.

What a deployment chooses is the field whose values are numbers, and the marker in front of a
stored rule.
-/

namespace RecordRules

structure StoredFormat where
  numericField : String
  marker : String
deriving DecidableEq

namespace StoredFormat

/-- Numbers under `Experience`, rules behind `query:`. -/
def standard : StoredFormat :=
  ⟨"Experience", "query:"⟩

/-- The marker can be found, and the numeric field can be written in a condition. -/
def validate (f : StoredFormat) : Except RuleError Unit :=
  if f.marker.isEmpty then .error (.invalidArgument .emptyMarker)
  else if f.numericField.toList.any fun c => c = '_' || c = '[' || c = ']' then
    .error (.invalidArgument (.unwritableNumericField f.numericField))
  else .ok ()

end StoredFormat

namespace Stored

/-- Spaces as tildes. -/
def escape (cs : List Char) : List Char :=
  Text.substitute ' ' '~' cs

/-- Tildes as spaces. -/
def unescape (cs : List Char) : List Char :=
  Text.substitute '~' ' ' cs

/-- The text of a constant before escaping. -/
def constantText : Constant → List Char
  | .single s => s.rendered
  | .pattern p => p.toList
  | .array items => Text.joined '|' (items.map Scalar.rendered)

/-- What stands between the brackets of a condition. -/
def conditionText (c : Condition) : List Char :=
  c.field.toList ++ '_' :: (c.operator.suffix.toList ++ '_' :: escape (constantText c.value))

def bracketed (cs : List Char) : List Char :=
  '[' :: (cs ++ [']'])

mutual

/-- The groups of a rule: its operator, its conditions, then its nested rules one after the
other. -/
def groupsOf : Rule → List (List Char)
  | .node op cs rs => op.token.toList :: (cs.map conditionText ++ groupsOfAll rs)

def groupsOfAll : List Rule → List (List Char)
  | [] => []
  | r :: rs => groupsOf r ++ groupsOfAll rs

end

def write (r : Rule) : List Char :=
  (groupsOf r).flatMap bracketed

end Stored

/-- The stored text of a rule, which no choice of format changes. -/
def Rule.stored (r : Rule) : String :=
  String.ofList (Stored.write r)

end RecordRules
