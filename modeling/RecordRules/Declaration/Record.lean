/-!
# RecordRules.Declaration.Record

Record declarations as far as queries need them: the fields in order, each with its name, its
attributes, and whether its type is an optional one.

An attribute has a path and may have items in brackets. Whether the items can be read at all is
kept with the attribute, since only the attribute that counts has to be well formed inside.
-/

namespace RecordRules
namespace Declaration

/-- A path of names; it is rooted where it starts with the separator. -/
structure AttributePath where
  rooted : Bool
  names : List String
deriving DecidableEq

def AttributePath.word? (p : AttributePath) : Option String :=
  match p.rooted, p.names with
  | false, [n] => some n
  | _, _ => none

/-- One item of an attribute: a path alone, a path with a value, or a path with items of its own.
Of a value only a text literal is kept. -/
inductive AttributeItem where
  | path (p : AttributePath)
  | value (p : AttributePath) (text : Option String)
  | group (p : AttributePath)

structure Attribute where
  path : AttributePath
  items : Option (List AttributeItem)

structure Field where
  name : String
  optional : Bool
  attributes : List Attribute

/-- What is declared: a record with named fields, one with positional fields or none, or something
that is no record. -/
inductive Item where
  | record (fields : List Field)
  | unnamed
  | other

end Declaration
end RecordRules
