import RecordRules.Value

/-!
# RecordRules.Record

What rules are compiled against. A record type has a name, a schema that gives fields their types,
and a way to read a field of a record. A field that is not there reads as no value, and what is
read need not have the type the schema promises.
-/

namespace RecordRules

structure FieldSpec where
  name : String
  type : ValueType
deriving DecidableEq

structure RecordType (α : Type) where
  name : String
  schema : List FieldSpec
  read : α → String → Value

/-- The type a schema gives a field; its first entry with the name counts. -/
def fieldType? (schema : List FieldSpec) (field : String) : Option ValueType :=
  match schema.find? fun spec => spec.name == field with
  | some spec => some spec.type
  | none => none

/-- A record given by the values of its fields. -/
abbrev Row := List (String × Value)

namespace Row

/-- The value of a field, the first entry with its name. -/
def read (row : Row) (field : String) : Value :=
  match row.find? fun entry => entry.1 == field with
  | some entry => entry.2
  | none => .none

def type (name : String) (schema : List FieldSpec) : RecordType Row :=
  ⟨name, schema, read⟩

end Row

/-- An attribute attached to an entity: a key and a value, both text. -/
structure StoredAttribute where
  key : String
  value : String
deriving DecidableEq

/-- Records that own links, each with its attributes. -/
structure EntityType (α : Type) extends RecordType α where
  links : α → List (List StoredAttribute)

/-- The way from an attribute to the entity that owns it. -/
structure OwnerLink (β : Type) where
  owner : Option β

/-- Records that may be linked to an owner of another type. -/
structure AttributeType (α β : Type) extends RecordType α where
  ownerType : RecordType β
  link : α → Option (OwnerLink β)

/-- The owner, where the way to it is complete. -/
def AttributeType.owner {α β : Type} (t : AttributeType α β) (a : α) : Option β :=
  match t.link a with
  | some l => l.owner
  | none => none

end RecordRules
