import RecordRules.Declaration.Grammar
import RecordRules.Record
import RecordRules.Text.CaseTable

/-!
# RecordRules.Registry

The query registry of a record declaration: for every field that a `query` attribute gives a type,
a constant with its query name, a schema entry and an accessor. A field without a type, or one to
be skipped, has none.

The first `query` attribute of a field counts. Its items are looked at in order: a type word, the
word `skip`, or a new name. The query names must differ, and each must give a constant a name.

An accessor reads the content of its own field, of which the declaration says what it holds and
whether it may hold nothing. Contents are typed by both, so no other content can be given.
-/

namespace RecordRules

open Declaration (Attribute AttributeItem Field Item)

inductive RegistryFault where
  | malformed
  | notRecord
  | unnamedFields
  | unknownType (word : String)
  | secondType
  | noWord
  | badName
  | unknownItem
  | duplicateName (name : String)
  | badConstant (name constant : String)
deriving DecidableEq

namespace RegistryFault

def message : RegistryFault → String
  | .malformed => "malformed declaration"
  | .notRecord => "Queryable can only be derived for structs"
  | .unnamedFields => "Queryable can only be derived for structs with named fields"
  | .unknownType word =>
    s!"unknown query type: '{word}'. Expected one of: Text, Number, Bool"
  | .secondType => "query type given twice"
  | .noWord => "expected query type: Text, Number, Bool, or skip"
  | .badName => "rename must be a non-empty string literal"
  | .unknownItem =>
    "unknown query attribute. Expected: Text, Number, Bool, skip, or rename = \"...\""
  | .duplicateName name => s!"duplicate query field name '{name}'"
  | .badConstant name constant =>
    s!"query field name '{name}' does not give a valid constant name ('{constant}')"

end RegistryFault

/-- What the items of an attribute ask for. -/
structure FieldOptions where
  type : Option ValueType
  skip : Bool
  rename : Option String

structure Accessor where
  name : String
  field : String
  type : ValueType
  optional : Bool
deriving DecidableEq

/-- What a field that is there holds, by the type it is queried with. -/
def Held : ValueType → Type
  | .text => String
  | .number => NativeNumber
  | .bool => Bool

def Held.value : {type : ValueType} → Held type → Value
  | .text, s => .text s
  | .number, n => .number (.ofNative n)
  | .bool, b => .bool b

/-- The content of a field. Only an optional field may hold nothing. -/
def Content (type : ValueType) : (optional : Bool) → Type
  | false => Held type
  | true => Option (Held type)

/-- An optional field that holds nothing is read as a missing value. -/
def Content.value {type : ValueType} : {optional : Bool} → Content type optional → Value
  | false, held => Held.value held
  | true, some held => Held.value held
  | true, none => .none

/-- The contents of a record, under the names that its declaration gives the fields. -/
abbrev Contents :=
  (field : String) → (type : ValueType) → (optional : Bool) → Content type optional

/-- The arm of an accessor: the content of its own field as a value. -/
def Accessor.read (a : Accessor) (x : Contents) : Value :=
  (x a.field a.type a.optional).value

structure NameConstant where
  constant : String
  name : String
deriving DecidableEq

structure Registry where
  constants : List NameConstant
  schema : List FieldSpec
  accessors : List Accessor

namespace FieldOptions

def none : FieldOptions :=
  ⟨Option.none, false, Option.none⟩

def typeOf? (word : String) : Option ValueType :=
  if ["Text", "text", "String", "string"].contains word then some .text
  else if ["Number", "number"].contains word then some .number
  else if ["Bool", "bool", "boolean"].contains word then some .bool
  else Option.none

def take (o : FieldOptions) : AttributeItem → Except RegistryFault FieldOptions
  | .path p =>
    match p.word? with
    | Option.none => .error .noWord
    | some word =>
      if word = "skip" then .ok { o with skip := true }
      else if o.type.isSome then .error .secondType
      else
        match typeOf? word with
        | Option.none => .error (.unknownType word)
        | some type => .ok { o with type := some type }
  | .value p text =>
    if p.word? = some "rename" then
      match text with
      | some name =>
        if Text.allBlank name.toList then .error .badName else .ok { o with rename := some name }
      | Option.none => .error .badName
    else .error .unknownItem
  | .group _ => .error .unknownItem

def takeAll (o : FieldOptions) : List AttributeItem → Except RegistryFault FieldOptions
  | [] => .ok o
  | item :: items =>
    match o.take item with
    | .error e => .error e
    | .ok o => takeAll o items

/-- The options of a field: those of its first attribute called `query`. -/
def ofAttributes : List Attribute → Except RegistryFault FieldOptions
  | [] => .ok none
  | a :: as =>
    if a.path.word? = some "query" then
      match a.items with
      | Option.none => .error .malformed
      | some items => none.takeAll items
    else ofAttributes as

end FieldOptions

namespace Registry

/-- The capital form of one of the letters a to z; other characters stay. -/
def asciiUpper (c : Char) : Char :=
  if 'a'.toNat ≤ c.toNat ∧ c.toNat ≤ 'z'.toNat then Char.ofNat (c.toNat - 32) else c

/-- Capitals with underscores, from the left: a capital behind a small letter or a digit begins a
new word, and so does a separator. -/
def screamingFrom (afterSmall : Bool) : List Char → List Char
  | [] => []
  | c :: cs =>
    if Text.isUppercase c then
      (if afterSmall then ['_', c] else [c]) ++ screamingFrom false cs
    else if c = '_' || c = '-' || c = '.' || c = ' ' then '_' :: screamingFrom false cs
    else asciiUpper c :: screamingFrom (Text.isAlphanumeric c) cs

def screaming (cs : List Char) : List Char :=
  screamingFrom false cs

/-- What one field adds to a registry, if it adds anything. -/
structure Entry where
  constant : String
  name : String
  type : ValueType
  field : String
  optional : Bool

/-- The entry of a field, given the query names already taken. -/
def entryOf (taken : List String) (f : Field) : Except RegistryFault (Option Entry) :=
  match FieldOptions.ofAttributes f.attributes with
  | .error e => .error e
  | .ok o =>
    if o.skip then .ok none
    else
      match o.type with
      | none => .ok none
      | some type =>
        let name := o.rename.getD f.name
        if taken.contains name then .error (.duplicateName name)
        else
          let constant := screaming name.toList
          match Declaration.identifier? constant with
          | none => .error (.badConstant name (String.ofList constant))
          | some constant => .ok (some ⟨constant, name, type, f.name, f.optional⟩)

def entriesOf (taken : List String) : List Field → Except RegistryFault (List Entry)
  | [] => .ok []
  | f :: fs =>
    match entryOf taken f with
    | .error e => .error e
    | .ok none => entriesOf taken fs
    | .ok (some entry) =>
      match entriesOf (entry.name :: taken) fs with
      | .error e => .error e
      | .ok entries => .ok (entry :: entries)

def ofEntries (entries : List Entry) : Registry :=
  ⟨entries.map fun e => ⟨e.constant, e.name⟩, entries.map fun e => ⟨e.name, e.type⟩,
    entries.map fun e => ⟨e.name, e.field, e.type, e.optional⟩⟩

def ofItem : Item → Except RegistryFault Registry
  | .other => .error .notRecord
  | .unnamed => .error .unnamedFields
  | .record fields =>
    match entriesOf [] fields with
    | .error e => .error e
    | .ok entries => .ok (ofEntries entries)

def read (text : String) : Except RegistryFault Registry :=
  match Declaration.read text with
  | none => .error .malformed
  | some item => ofItem item

def accessor? (r : Registry) (name : String) : Option Accessor :=
  r.accessors.find? fun a => a.name == name

/-- The record type that a registry describes, given the contents of a record's fields. A name
without an accessor reads as a missing value. -/
def recordType {α : Type} (r : Registry) (name : String) (contents : α → Contents) :
    RecordType α :=
  ⟨name, r.schema, fun x field =>
    match r.accessor? field with
    | some accessor => accessor.read (contents x)
    | none => .none⟩

end Registry
end RecordRules
