import RecordRules.Text.Search

/-!
# RecordRules.Conventions

How the name of a field leads to a related record: a leading text routes the rest of the name to
the linked attributes of an entity, another to the owner of an attribute. An empty leading text
routes nothing.
-/

namespace RecordRules

structure Conventions where
  attributeLead : String
  ownerLead : String
deriving DecidableEq

namespace Conventions

/-- Attributes behind `metadata.`, owners behind `employee.`. -/
def standard : Conventions :=
  ⟨"metadata.", "employee."⟩

/-- The rest of a name behind a leading text that is not empty. -/
def route? (lead field : String) : Option String :=
  if lead.isEmpty then none
  else
    match Text.stripLead? lead.toList field.toList with
    | some rest => some (String.ofList rest)
    | none => none

def attributeKey? (c : Conventions) (field : String) : Option String :=
  route? c.attributeLead field

def ownerField? (c : Conventions) (field : String) : Option String :=
  route? c.ownerLead field

end Conventions
end RecordRules
