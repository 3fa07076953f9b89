import RecordRules.Conventions
import RecordRules.Stored.Format
import RecordRules.Yaml.Reading

/-!
# RecordRules.Settings

What a deployment configures: the stored format under `codec`, the conventions under `relations`.
A configuration document is a YAML mapping of two levels; what it leaves out keeps its standard
value, keys it does not know are passed over, and a known key given twice is refused. Any scalar is
text where text is wanted.
-/

namespace RecordRules

structure Settings where
  format : StoredFormat
  conventions : Conventions
deriving DecidableEq

namespace Settings

def standard : Settings :=
  ⟨.standard, .standard⟩

/-- The settings give a format that can be used. -/
def validate (s : Settings) : Except RuleError Unit :=
  s.format.validate

/-- The text of a node that is a scalar or stands for one. -/
def scalarText? (d : Yaml.Document) (v : Yaml) : Option String :=
  match d.resolve? v with
  | some (.scalar _ s) => some s
  | _ => none

/-- The entries of a mapping, with their keys as text; nothing at all is a mapping without
entries. -/
def entries? (d : Yaml.Document) (v : Yaml) : Option (List (String × Yaml)) :=
  match d.resolve? v with
  | some (.scalar true "") => some []
  | some (.mapping entries) =>
    entries.mapM fun e => (scalarText? d e.1).map fun k => (k, e.2)
  | _ => none

/-- The value of a key that may stand there at most once; the outer option fails where it stands
twice. -/
def atMostOnce? (key : String) (entries : List (String × Yaml)) : Option (Option Yaml) :=
  match entries.filter fun e => e.1 == key with
  | [] => some none
  | [e] => some (some e.2)
  | _ => none

/-- What stands under a key, or its standard value. -/
def valueOr? {α : Type} (standard : α) (key : String) (read : Yaml → Option α)
    (entries : List (String × Yaml)) : Option α :=
  match atMostOnce? key entries with
  | none => none
  | some none => some standard
  | some (some v) => read v

def formatOf? (d : Yaml.Document) (v : Yaml) : Option StoredFormat :=
  match entries? d v with
  | none => none
  | some entries =>
    match valueOr? StoredFormat.standard.numericField "numeric_field" (scalarText? d) entries,
      valueOr? StoredFormat.standard.marker "query_marker" (scalarText? d) entries with
    | some field, some marker => some ⟨field, marker⟩
    | _, _ => none

def conventionsOf? (d : Yaml.Document) (v : Yaml) : Option Conventions :=
  match entries? d v with
  | none => none
  | some entries =>
    match valueOr? Conventions.standard.attributeLead "attribute_prefix" (scalarText? d) entries,
      valueOr? Conventions.standard.ownerLead "entity_prefix" (scalarText? d) entries with
    | some attributes, some owners => some ⟨attributes, owners⟩
    | _, _ => none

def ofDocument? (d : Yaml.Document) : Option Settings :=
  match entries? d d.root with
  | none => none
  | some entries =>
    match valueOr? StoredFormat.standard "codec" (formatOf? d) entries,
      valueOr? Conventions.standard "relations" (conventionsOf? d) entries with
    | some format, some conventions => some ⟨format, conventions⟩
    | _, _ => none

/-- The settings in a document, before they are validated. A document without content leaves
everything standard. -/
def parse? (text : String) : Option Settings :=
  if Text.allBlank text.toList then some standard
  else (Yaml.read? text.toList).bind ofDocument?

/-- The validated settings in a document. -/
def read (text : String) : Except RuleError Settings :=
  match parse? text with
  | none => .error .config
  | some s =>
    match s.validate with
    | .error e => .error e
    | .ok () => .ok s

end Settings
end RecordRules
