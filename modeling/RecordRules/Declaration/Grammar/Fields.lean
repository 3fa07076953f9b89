import RecordRules.Declaration.Grammar.Bound

/-!
# RecordRules.Declaration.Grammar.Fields

What records, choices and unions consist of. Of a named field its name, its type's shape and its
attributes are kept.
-/

namespace RecordRules
namespace Declaration
namespace Grammar

structure NamedField where
  name : String
  type : TypeShape
  attributes : List AttributeTokens

/-- A record or a union without a name starts here, in the place of a type. -/
def atNameless (ts : List Token) : Bool :=
  atName "struct" ts || (atName "union" ts && atGroup .curly (ts.drop 1))

/-- A named field. A field called by an underscore may hold a record without a name. -/
def namedField (g : Grammar) : Reader NamedField := do
  let attributes ← g.outerAttributes
  discard visibility?
  if ← given? "_" then
    sign ":"
    if atNameless (← ahead) then
      drop 1
      g.fields
      return ⟨"_", .other, attributes⟩
    else return ⟨"_", ← g.type true, attributes⟩
  else
    let name ← word
    sign ":"
    return ⟨name, ← g.type true, attributes⟩

def namedFields (g : Grammar) : Reader (List NamedField) :=
  inGroup .curly (listed g.namedField)

def positionalField (g : Grammar) : Reader Unit := do
  discard g.outerAttributes
  discard visibility?
  discard (g.type true)

def positionalFields (g : Grammar) : Reader Unit :=
  discard (inGroup .round (listed g.positionalField))

/-- One of the cases of a choice, with its number where it has one. -/
def variant (g : Grammar) : Reader Unit := do
  discard g.outerAttributes
  discard visibility?
  discard word
  let ts ← ahead
  if atGroup .curly ts then discard g.namedFields
  else if atGroup .round ts then g.positionalFields
  if ← sign? "=" then discard (g.value true)

/-- What stands behind a record's name and parameters: its fields where they have names. -/
def recordBody (g : Grammar) : Reader (Option (List NamedField)) := do
  let conditional := atName "where" (← ahead)
  g.conditions
  let ts ← ahead
  if atGroup .curly ts then return some (← g.namedFields)
  else
    if !conditional && atGroup .round ts then
      g.positionalFields
      g.conditions
    sign ";"
    return none

def choiceBody (g : Grammar) : Reader Unit := do
  g.conditions
  discard (inGroup .curly (listed g.variant))

def unionBody (g : Grammar) : Reader Unit := do
  g.conditions
  discard g.namedFields

end Grammar
end Declaration
end RecordRules
