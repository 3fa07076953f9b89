import RecordRules.Proofs.Compile.Typing
import RecordRules.Proofs.Registry.Fields
import RecordRules.Proofs.Registry.Screaming

/-!
# RecordRules.Proofs.Registry.Tables

Which declarations have a registry, and what its tables list.

A declaration has a registry where its fields are well formed, and the first fault is reported
otherwise. The constants, the schema and the accessors of a registry are aligned: they list the
queried fields in the order of their declaration, each under one name in all three. An accessor
reads the content of its own field as a value of its type (`Accessor.Reads`).
-/

namespace RecordRules

/-! ## What an accessor reads -/

namespace Held

variable {type : ValueType}

theorem type?_value (held : Held type) : held.value.type? = some type := by
  cases type <;> rfl

theorem value_ne_none (held : Held type) : held.value ≠ .none := by
  cases type <;> exact Value.noConfusion

end Held

namespace Content

variable {type : ValueType} {optional : Bool}

/-- The field is optional and holds nothing. -/
def isEmpty : {optional : Bool} → Content type optional → Bool
  | true, none => true
  | _, _ => false

theorem conforms_value (c : Content type optional) : c.value.Conforms type := by
  cases optional with
  | false => exact .inr (Held.type?_value c)
  | true =>
    cases c with
    | none => exact .inl rfl
    | some held => exact .inr held.type?_value

theorem value_eq_none_iff (c : Content type optional) : c.value = .none ↔ c.isEmpty = true := by
  cases optional with
  | false => exact iff_of_false (Held.value_ne_none c) Bool.false_ne_true
  | true =>
    cases c with
    | none => exact iff_of_true rfl rfl
    | some held => exact iff_of_false held.value_ne_none Bool.false_ne_true

theorem optional_of_isEmpty {c : Content type optional} (h : c.isEmpty = true) :
    optional = true := by
  cases optional with
  | false => cases h
  | true => rfl

end Content

/-- The value is made of the content of the accessor's own field. It has the accessor's type, and it
is missing exactly where the field is optional and holds nothing. -/
structure Accessor.Reads (a : Accessor) (x : Contents) (v : Value) : Prop where
  content : v = (x a.field a.type a.optional).value
  conforms : v.Conforms a.type
  missing : v = .none ↔ (x a.field a.type a.optional).isEmpty = true
  optional : v = .none → a.optional = true

theorem Accessor.reads_read (a : Accessor) (x : Contents) : a.Reads x (a.read x) where
  content := rfl
  conforms := Content.conforms_value _
  missing := Content.value_eq_none_iff _
  optional h := Content.optional_of_isEmpty ((Content.value_eq_none_iff _).mp h)

namespace Registry

open Declaration (Field Item IsIdentifier identifier?)

/-- The accessors of fields whose query names differ and all make constants. -/
structure WellFormed (fields : List Field) (accessors : List Accessor) : Prop where
  queries : Queries fields accessors
  distinct : (accessors.map (·.name)).Nodup
  constants : ∀ a ∈ accessors, (identifier? (screaming a.name.toList)).isSome = true

/-- What is wrong first, in the order of the fields. -/
inductive FirstFault : Item → RegistryFault → Prop where
  | notRecord : FirstFault .other .notRecord
  | unnamedFields : FirstFault .unnamed .unnamedFields
  | field {before after : List Field} {f : Field} {accessors : List Accessor} {e : RegistryFault}
      (sound : WellFormed before accessors) (fault : FieldFault (accessors.map (·.name)) f e) :
      FirstFault (.record (before ++ f :: after)) e

/-- The tables list the same names in the same order, with the same types. -/
structure Aligned (r : Registry) : Prop where
  schema : r.schema = r.accessors.map fun a => ⟨a.name, a.type⟩
  constants : List.Forall₂
    (fun k a => k.name = a.name ∧ identifier? (screaming a.name.toList) = some k.constant)
    r.constants r.accessors

variable {fields : List Field} {accessors : List Accessor} {xs : List Entry} {r : Registry}

/-! ## Registries from entries -/

/-- The constants of entries are those that their names make. -/
def Named (xs : List Entry) : Prop :=
  ∀ x ∈ xs, identifier? (screaming x.name.toList) = some x.constant

theorem exists_named
    (h : ∀ a ∈ accessors, (identifier? (screaming a.name.toList)).isSome = true) :
    ∃ xs, Named xs ∧ xs.map Entry.accessor = accessors := by
  induction accessors with
  | nil => exact ⟨[], by simp [Named], rfl⟩
  | cons a as ih =>
    obtain ⟨ha, has⟩ := List.forall_mem_cons.mp h
    obtain ⟨constant, hconstant⟩ := Option.isSome_iff_exists.mp ha
    obtain ⟨xs, hxs, rfl⟩ := ih has
    refine ⟨⟨constant, a.name, a.type, a.field, a.optional⟩ :: xs, ?_, rfl⟩
    exact List.forall_mem_cons.mpr ⟨hconstant, hxs⟩

theorem wellFormed_iff :
    WellFormed fields accessors ↔
      ∃ xs, entriesOf [] fields = .ok xs ∧ xs.map Entry.accessor = accessors := by
  have hnames : ∀ xs : List Entry,
      (xs.map Entry.accessor).map (·.name) = xs.map (·.name) := by
    intro xs
    rw [List.map_map]
    rfl
  constructor
  · rintro ⟨hqueries, hdistinct, hconstants⟩
    obtain ⟨xs, hnamed, rfl⟩ := exists_named hconstants
    rw [hnames] at hdistinct
    exact ⟨xs, entriesOf_eq_ok_iff.mpr
      ⟨hqueries, hdistinct, fun x hx => ⟨List.not_mem_nil, hnamed x hx⟩⟩, rfl⟩
  · rintro ⟨xs, hentries, rfl⟩
    obtain ⟨hqueries, hdistinct, hall⟩ := entriesOf_eq_ok_iff.mp hentries
    refine ⟨hqueries, (hnames xs).symm ▸ hdistinct, fun a ha => ?_⟩
    obtain ⟨x, hx, rfl⟩ := List.mem_map.mp ha
    exact Option.isSome_iff_exists.mpr ⟨x.constant, (hall x hx).2⟩

theorem constants_iff_of_named {ks : List NameConstant} (hnamed : Named xs) :
    List.Forall₂
        (fun k a => k.name = a.name ∧ identifier? (screaming a.name.toList) = some k.constant)
        ks (xs.map Entry.accessor) ↔
      ks = xs.map fun x => ⟨x.constant, x.name⟩ := by
  induction xs generalizing ks with
  | nil => simp
  | cons x xs ih =>
    obtain ⟨hx, hxs⟩ := List.forall_mem_cons.mp hnamed
    cases ks with
    | nil => simp
    | cons k ks =>
      rw [List.map_cons, List.map_cons, List.forall₂_cons, ih hxs, List.cons.injEq]
      refine and_congr_left fun _ => ⟨?_, ?_⟩
      · rintro ⟨hname, hconstant⟩
        have hsame : x.constant = k.constant := Option.some.inj (hx.symm.trans hconstant)
        rw [hsame, show x.name = k.name from hname.symm]
      · rintro rfl
        exact ⟨rfl, hx⟩

/-- The registry of entries is the only one that is aligned with their accessors. -/
theorem aligned_iff (hnamed : Named xs) (ha : r.accessors = xs.map Entry.accessor) :
    Aligned r ↔ r = ofEntries xs := by
  obtain ⟨ks, schema, as⟩ := r
  cases ha
  have hschema : (xs.map Entry.accessor).map (fun a => (⟨a.name, a.type⟩ : FieldSpec)) =
      xs.map fun x => ⟨x.name, x.type⟩ := by
    rw [List.map_map]
    rfl
  constructor
  · rintro ⟨hspecs, hconstants⟩
    rw [ofEntries, ← (constants_iff_of_named hnamed).mp hconstants, ← hschema]
    exact congrArg (Registry.mk ks · _) hspecs
  · intro h
    cases h
    exact ⟨hschema.symm, (constants_iff_of_named hnamed).mpr rfl⟩

theorem ofItem_record_eq_ok_iff :
    ofItem (.record fields) = .ok r ↔ WellFormed fields r.accessors ∧ Aligned r := by
  have hentries : ofItem (.record fields) = .ok r ↔
      ∃ xs, entriesOf [] fields = .ok xs ∧ r = ofEntries xs := by
    rw [ofItem]
    cases entriesOf [] fields with
    | error e => simp
    | ok xs => simp [eq_comm]
  rw [hentries, wellFormed_iff]
  constructor
  · rintro ⟨xs, hxs, rfl⟩
    have hnamed : Named xs := fun x hx => ((entriesOf_eq_ok_iff.mp hxs).2.2 x hx).2
    exact ⟨⟨xs, hxs, rfl⟩, (aligned_iff hnamed rfl).mpr rfl⟩
  · rintro ⟨⟨xs, hxs, haccessors⟩, haligned⟩
    have hnamed : Named xs := fun x hx => ((entriesOf_eq_ok_iff.mp hxs).2.2 x hx).2
    exact ⟨xs, hxs, (aligned_iff hnamed haccessors.symm).mp haligned⟩

theorem ofItem_eq_error_iff {item : Item} {e : RegistryFault} :
    ofItem item = .error e ↔ FirstFault item e := by
  have hfields : ∀ fields, ofItem (.record fields) = .error e ↔ entriesOf [] fields = .error e := by
    intro fields
    rw [ofItem]
    cases entriesOf [] fields <;> simp
  have hnames : ∀ xs : List Entry,
      xs.map (·.name) ++ [] = (xs.map Entry.accessor).map (·.name) := by
    intro xs
    rw [List.append_nil, List.map_map]
    rfl
  constructor
  · intro h
    cases item with
    | other =>
      cases h
      exact .notRecord
    | unnamed =>
      cases h
      exact .unnamedFields
    | record fields =>
      obtain ⟨before, f, after, rfl, xs, hxs, hfault⟩ :=
        entriesOf_eq_error_iff.mp ((hfields _).mp h)
      rw [hnames] at hfault
      exact .field (wellFormed_iff.mpr ⟨xs, hxs, rfl⟩) hfault
  · intro h
    cases h with
    | notRecord => rfl
    | unnamedFields => rfl
    | @field before after f accessors e sound fault =>
      obtain ⟨xs, hxs, rfl⟩ := wellFormed_iff.mp sound
      rw [← hnames] at fault
      exact (hfields _).mpr
        (entriesOf_eq_error_iff.mpr ⟨before, f, after, rfl, xs, hxs, fault⟩)

/-! ## What the tables say of a name -/

theorem accessor?_of_mem (h : WellFormed fields r.accessors) {a : Accessor}
    (ha : a ∈ r.accessors) : r.accessor? a.name = some a :=
  find?_key_of_nodup h.distinct ha

theorem fieldType?_of_mem (h : WellFormed fields r.accessors) (haligned : Aligned r)
    {a : Accessor} (ha : a ∈ r.accessors) : fieldType? r.schema a.name = some a.type := by
  have hnodup : (r.schema.map (·.name)).Nodup := by
    rw [haligned.schema, List.map_map]
    exact h.distinct
  have hmem : (⟨a.name, a.type⟩ : FieldSpec) ∈ r.schema := by
    rw [haligned.schema]
    exact List.mem_map_of_mem ha
  rw [fieldType?, find?_key_of_nodup hnodup hmem]

theorem accessor?_of_not_mem {name : String} (h : name ∉ r.accessors.map (·.name)) :
    r.accessor? name = none := by
  rw [accessor?, List.find?_eq_none]
  intro a ha
  have hne : a.name ≠ name := fun hname => h (hname ▸ List.mem_map_of_mem ha)
  simpa using hne

theorem fieldType?_of_not_mem (haligned : Aligned r) {name : String}
    (h : name ∉ r.accessors.map (·.name)) : fieldType? r.schema name = none := by
  rw [fieldType?_eq_none_iff, haligned.schema]
  intro s hs
  obtain ⟨a, ha, rfl⟩ := List.mem_map.mp hs
  exact fun hname => h (hname ▸ List.mem_map_of_mem ha)

section Reading

variable {α : Type} {type name : String} {contents : α → Contents} {x : α}

theorem reads_recordType (h : WellFormed fields r.accessors) {a : Accessor}
    (ha : a ∈ r.accessors) :
    a.Reads (contents x) ((r.recordType type contents).read x a.name) := by
  simp only [recordType, accessor?_of_mem h ha]
  exact a.reads_read (contents x)

theorem read_recordType_of_not_mem (h : name ∉ r.accessors.map (·.name)) :
    (r.recordType type contents).read x name = .none := by
  simp only [recordType, accessor?_of_not_mem h]

/-- Records of a declaration hold what the schema promises. -/
theorem conforms_recordType (h : WellFormed fields r.accessors) (haligned : Aligned r)
    {t : ValueType} (ht : fieldType? r.schema name = some t) :
    ((r.recordType type contents).read x name).Conforms t := by
  by_cases hname : name ∈ r.accessors.map (·.name)
  · obtain ⟨a, ha, rfl⟩ := List.mem_map.mp hname
    obtain rfl : a.type = t := Option.some.inj ((fieldType?_of_mem h haligned ha).symm.trans ht)
    exact (reads_recordType h ha).conforms
  · rw [fieldType?_of_not_mem haligned hname] at ht
    cases ht

end Reading

/-! ## Constants -/

theorem isIdentifier_of_screaming {cs : List Char} {n : String}
    (h : identifier? (screaming cs) = some n) : IsIdentifier n.toList := by
  refine Declaration.isIdentifier_of_identifier? h ?_
  intro hraw
  exact absurd (not_isSmall_of_mem_screamingFrom hraw) (by decide)

/-! ## The registry of a declaration -/

/-- A declaration has a registry exactly where its fields are well formed, with the tables that the
fields ask for; otherwise the first fault is reported. Under the name of an accessor a record is
read by it, as a value of the type that the schema gives the name; under any other name the schema
has no type and nothing is read. The constants are identifiers of the language. -/
theorem ofItem_by_fields (item : Item) :
    ((∃ r, ofItem item = .ok r) ↔
      ∃ fields accessors, item = .record fields ∧ WellFormed fields accessors) ∧
    (∀ r, ofItem item = .ok r ↔
      ∃ fields, item = .record fields ∧ WellFormed fields r.accessors ∧ Aligned r) ∧
    (∀ e, ofItem item = .error e ↔ FirstFault item e) ∧
    (∀ r, ofItem item = .ok r →
      ∀ {α : Type} (type : String) (contents : α → Contents) (x : α),
        (∀ a ∈ r.accessors, fieldType? r.schema a.name = some a.type ∧
          a.Reads (contents x) ((r.recordType type contents).read x a.name)) ∧
        ∀ name, name ∉ r.accessors.map (·.name) → fieldType? r.schema name = none ∧
          (r.recordType type contents).read x name = .none) ∧
    ∀ cs, (∀ n, identifier? (screaming cs) = some n → IsIdentifier n.toList) ∧
      (IsIdentifier (screaming cs) →
        identifier? (screaming cs) = some (String.ofList (screaming cs))) := by
  have hok : ∀ r, ofItem item = .ok r ↔
      ∃ fields, item = .record fields ∧ WellFormed fields r.accessors ∧ Aligned r := by
    intro r
    constructor
    · intro h
      cases item with
      | other => cases h
      | unnamed => cases h
      | record fields => exact ⟨fields, rfl, ofItem_record_eq_ok_iff.mp h⟩
    · rintro ⟨fields, rfl, h⟩
      exact ofItem_record_eq_ok_iff.mpr h
  refine ⟨⟨?_, ?_⟩, hok, fun e => ofItem_eq_error_iff, ?_, fun cs => ⟨fun n => ?_, ?_⟩⟩
  · rintro ⟨r, h⟩
    obtain ⟨fields, rfl, hsound, -⟩ := (hok r).mp h
    exact ⟨fields, r.accessors, rfl, hsound⟩
  · rintro ⟨fields, accessors, rfl, hsound⟩
    obtain ⟨xs, hxs, rfl⟩ := wellFormed_iff.mp hsound
    exact ⟨ofEntries xs, by rw [ofItem, hxs]⟩
  · intro r h α type contents x
    obtain ⟨fields, -, hsound, haligned⟩ := (hok r).mp h
    exact ⟨fun a ha => ⟨fieldType?_of_mem hsound haligned ha, reads_recordType hsound ha⟩,
      fun name hname => ⟨fieldType?_of_not_mem haligned hname, read_recordType_of_not_mem hname⟩⟩
  · exact isIdentifier_of_screaming
  · exact Declaration.identifier?_of_isIdentifier

/-- A new name, a field to be skipped, one behind an attribute that does not count, and one without
a type. -/
def shelf : List Field :=
  let query := fun items => (⟨⟨false, ["query"]⟩, some items⟩ : Declaration.Attribute)
  [⟨"title", false, [query
      [.path ⟨false, ["Text"]⟩, .value ⟨false, ["rename"]⟩ (some "full title")]]⟩,
    ⟨"notes", true, [query [.path ⟨false, ["Text"]⟩, .path ⟨false, ["skip"]⟩]]⟩,
    ⟨"pageCount", true, [⟨⟨false, ["column"]⟩, none⟩, query [.path ⟨false, ["number"]⟩]]⟩,
    ⟨"spine", false, []⟩]

theorem ofItem_by_fields_shelf :
    ∃ r, ofItem (.record shelf) = .ok r ∧ WellFormed shelf r.accessors ∧
      r.constants = [⟨"FULL_TITLE", "full title"⟩, ⟨"PAGE_COUNT", "pageCount"⟩] ∧
      ∀ x : Contents,
        (r.recordType "Shelf" id).read x "full title" = .text (x "title" .text false) ∧
        (x "pageCount" .number true = (none : Option NativeNumber) →
          (r.recordType "Shelf" id).read x "pageCount" = .none) := by
  have hread : (ofItem (.record shelf)).toOption.map (fun r => (r.constants, r.accessors)) =
      some ([⟨"FULL_TITLE", "full title"⟩, ⟨"PAGE_COUNT", "pageCount"⟩],
        [⟨"full title", "title", .text, false⟩, ⟨"pageCount", "pageCount", .number, true⟩]) := by
    decide +kernel
  cases h : ofItem (.record shelf) with
  | error e =>
    rw [h] at hread
    cases hread
  | ok r =>
    rw [h] at hread
    obtain ⟨hconstants, haccessors⟩ := Prod.mk.inj (Option.some.inj hread)
    obtain ⟨-, hok, -, hreads, -⟩ := ofItem_by_fields (.record shelf)
    obtain ⟨fields, hfields, hsound, -⟩ := (hok r).mp h
    cases hfields
    refine ⟨r, rfl, hsound, hconstants, fun x => ⟨?_, fun hempty => ?_⟩⟩
    · have htitle := ((hreads r h "Shelf" id x).1 ⟨"full title", "title", .text, false⟩
        (by rw [haccessors]; decide)).2
      exact htitle.content
    · have hcount := ((hreads r h "Shelf" id x).1 ⟨"pageCount", "pageCount", .number, true⟩
        (by rw [haccessors]; decide)).2
      exact hcount.missing.mpr (congrArg Content.isEmpty hempty)

end Registry
end RecordRules
