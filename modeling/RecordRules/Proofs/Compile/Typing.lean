import RecordRules.Proofs.Compile.Target
import RecordRules.Proofs.Rule.Shape

/-!
# RecordRules.Proofs.Compile.Typing

When a condition can be tested, and what is wrong with it where it cannot.

* `Condition.Suits` says which types of a field a condition can be tested on, `Condition.WellTyped`
  the same of a field of a schema, whose first entry with the name counts. `Condition.Unfit` and
  `Condition.FieldFault` are the ways to fall short of that, each with its error.
* `Value.Conforms` says which values fit the type that a schema promises.
* `comparison_judged` and `fieldTest_judged`: the compiler agrees with both.
* `AttributeTest.make_judged`: on values stored as text, only an order asks something of a constant.
-/

namespace RecordRules

/-- A result is there exactly in a given case, and is a failure exactly as described. -/
structure Judged {α ε : Type} (x : Except ε α) (good : Prop) (fault : ε → Prop) : Prop where
  isOk_iff : (∃ a, x = .ok a) ↔ good
  isError_iff : ∀ e, x = .error e ↔ fault e

namespace Judged

variable {α ε : Type} {x : Except ε α} {good : Prop} {fault : ε → Prop}

theorem of_verdict (hok : verdict x = .ok () ↔ good) (herr : ∀ e, verdict x = .error e ↔ fault e) :
    Judged x good fault :=
  ⟨verdict_eq_ok_iff.symm.trans hok, fun e => verdict_eq_error_iff.symm.trans (herr e)⟩

theorem verdict_eq_ok_iff (h : Judged x good fault) : verdict x = .ok () ↔ good :=
  RecordRules.verdict_eq_ok_iff.trans h.isOk_iff

theorem verdict_eq_error_iff (h : Judged x good fault) {e : ε} :
    verdict x = .error e ↔ fault e :=
  RecordRules.verdict_eq_error_iff.trans (h.isError_iff e)

theorem congr {good' : Prop} {fault' : ε → Prop} (h : Judged x good fault) (hgood : good ↔ good')
    (hfault : ∀ e, fault e ↔ fault' e) : Judged x good' fault' :=
  ⟨h.isOk_iff.trans hgood, fun e => (h.isError_iff e).trans (hfault e)⟩

theorem map {β : Type} {f : α → β} (h : Judged x good fault) : Judged (x.map f) good fault := by
  refine .of_verdict ?_ fun e => ?_
  · rw [verdict_map, h.verdict_eq_ok_iff]
  · rw [verdict_map, h.verdict_eq_error_iff]

end Judged

namespace Value

/-- The type of a value that is there. -/
def type? : Value → Option ValueType
  | .text _ => some .text
  | .number _ => some .number
  | .bool _ => some .bool
  | .none => Option.none

/-- The value is missing or has the type that a schema promises. -/
def Conforms (v : Value) (type : ValueType) : Prop :=
  v = .none ∨ v.type? = some type

end Value

/-- The first entry of a schema with a given name. -/
def FirstEntry (schema : List FieldSpec) (name : String) (type : ValueType) : Prop :=
  ∃ before after, schema = before ++ ⟨name, type⟩ :: after ∧ ∀ s ∈ before, s.name ≠ name

theorem fieldType?_eq_some_iff {schema : List FieldSpec} {name : String} {type : ValueType} :
    fieldType? schema name = some type ↔ FirstEntry schema name type := by
  constructor
  · intro h
    rw [fieldType?] at h
    split at h
    · rename_i s hs
      obtain ⟨hname, before, after, rfl, hbefore⟩ := List.find?_eq_some_iff_append.mp hs
      cases h
      obtain rfl : s.name = name := by simpa using hname
      exact ⟨before, after, rfl, fun x hx => by simpa using hbefore x hx⟩
    · cases h
  · rintro ⟨before, after, rfl, hbefore⟩
    have hfind : (before ++ ⟨name, type⟩ :: after).find? (fun s => s.name == name) =
        some ⟨name, type⟩ :=
      List.find?_eq_some_iff_append.mpr
        ⟨by simp, before, after, rfl, fun x hx => by simpa using hbefore x hx⟩
    rw [fieldType?, hfind]

theorem fieldType?_eq_none_iff {schema : List FieldSpec} {name : String} :
    fieldType? schema name = none ↔ ∀ s ∈ schema, s.name ≠ name := by
  rw [fieldType?]
  cases h : schema.find? fun s => s.name == name with
  | none => simpa using h
  | some s =>
    have hm := List.mem_of_find?_eq_some h
    have hn : s.name = name := by simpa using List.find?_some h
    simp only [reduceCtorEq, false_iff, not_forall, not_not]
    exact ⟨s, hm, hn⟩

namespace Condition

/-- A text is searched, values are compared with values of their own type, and only numbers are
put in order. -/
def Suits (c : Condition) (type : ValueType) : Prop :=
  match c.operator with
  | .like | .ilike => type = .text
  | .gt | .lt | .gte | .lte => type = .number ∧ ∀ s ∈ c.value.scalars, s.type = .number
  | _ => ∀ s ∈ c.value.scalars, s.type = type

/-- Of several constants, the first that has another type is at fault; the order is looked at once
all of them have the field's type. -/
inductive Unfit (c : Condition) (type : ValueType) : Mismatch → Prop where
  | search (searches : c.operator.kind = .text) (differs : type ≠ .text) :
      Unfit c type (.needsTextField c.operator type)
  | constant {before : List Scalar} {s : Scalar} {after : List Scalar}
      (compares : c.operator.kind = .comparison)
      (scalars : c.value.scalars = before ++ s :: after)
      (same : ∀ x ∈ before, x.type = type) (differs : s.type ≠ type) :
      Unfit c type (.constantType s.type type)
  | order (orders : c.operator.isOrdering = true) (same : ∀ s ∈ c.value.scalars, s.type = type)
      (differs : type ≠ .number) : Unfit c type (.undefinedFor c.operator type)

/-- The condition can be tested on the field with this name. -/
def WellTyped (c : Condition) (schema : List FieldSpec) (name : String) : Prop :=
  ∃ type, FirstEntry schema name type ∧ c.Suits type

/-- Why the condition cannot be tested on the field of a record type with this name. -/
inductive FieldFault {α : Type} (c : Condition) (t : RecordType α) (name : String) :
    RuleError → Prop where
  | unknown (absent : ∀ s ∈ t.schema, s.name ≠ name) :
      FieldFault c t name (.unknownField name t.name)
  | unfit {type : ValueType} {reason : Mismatch} (entry : FirstEntry t.schema name type)
      (fault : c.Unfit type reason) : FieldFault c t name (.typeMismatch name reason)

theorem suits_of_text {c : Condition} {type : ValueType} (h : c.operator.kind = .text) :
    c.Suits type ↔ type = .text := by
  obtain ⟨field, op, v⟩ := c
  cases op with
  | like => rfl
  | ilike => rfl
  | _ => cases h

theorem suits_of_comparison {c : Condition} {type : ValueType}
    (h : c.operator.kind = .comparison) :
    c.Suits type ↔
      (∀ s ∈ c.value.scalars, s.type = type) ∧ (c.operator.isOrdering = true → type = .number) := by
  obtain ⟨field, op, v⟩ := c
  have hordering : (type = .number ∧ ∀ s ∈ v.scalars, s.type = .number) ↔
      (∀ s ∈ v.scalars, s.type = type) ∧ (true = true → type = .number) := by
    constructor
    · rintro ⟨rfl, hs⟩
      exact ⟨hs, fun _ => rfl⟩
    · rintro ⟨hs, ht⟩
      obtain rfl := ht rfl
      exact ⟨rfl, hs⟩
  have hother : (∀ s ∈ v.scalars, s.type = type) ↔
      (∀ s ∈ v.scalars, s.type = type) ∧ (false = true → type = .number) :=
    ⟨fun hs => ⟨hs, fun hf => (by cases hf)⟩, fun hs => hs.1⟩
  cases op with
  | gt => exact hordering
  | lt => exact hordering
  | gte => exact hordering
  | lte => exact hordering
  | eq => exact hother
  | neq => exact hother
  | member => exact hother
  | absent => exact hother
  | _ => cases h

end Condition

namespace Comparison

theorem checkTypes_eq (field : String) (type : ValueType) (ss : List Scalar) :
    checkTypes field type ss = runAll (checkType field type) ss := by
  induction ss with
  | nil => rfl
  | cons s ss ih =>
    rw [checkTypes, runAll, ih]
    cases checkType field type s <;> rfl

theorem checkType_eq_ok_iff {field : String} {type : ValueType} {s : Scalar} :
    checkType field type s = .ok () ↔ s.type = type := by
  rw [checkType]
  split <;> simp_all

theorem checkTypes_eq_ok_iff {field : String} {type : ValueType} {ss : List Scalar} :
    checkTypes field type ss = .ok () ↔ ∀ s ∈ ss, s.type = type := by
  rw [checkTypes_eq, runAll_eq_ok_iff]
  exact forall₂_congr fun s _ => checkType_eq_ok_iff

theorem checkTypes_eq_error_iff {field : String} {type : ValueType} {ss : List Scalar}
    {e : RuleError} :
    checkTypes field type ss = .error e ↔ ∃ before s after, ss = before ++ s :: after ∧
      (∀ x ∈ before, x.type = type) ∧ s.type ≠ type ∧
        e = .typeMismatch field (.constantType s.type type) := by
  rw [checkTypes_eq, runAll_eq_error_iff]
  simp only [checkType_eq_ok_iff]
  refine exists₃_congr fun before s after => and_congr_right fun _ => and_congr_right fun _ => ?_
  rw [checkType]
  split
  · rename_i h
    simp [h]
  · rename_i h
    simp [h, eq_comm]

end Comparison

open Comparison

/-! ## Fields of a known type -/

section Comparisons

variable {field : String} {type : ValueType} {c : Condition}

theorem comparison_of_pattern {op : Operator} {p : String} (h : op.kind = .text) :
    comparison field type (.pattern p) op =
      if type = .text then .ok (.contains (op == .ilike) p)
      else .error (.typeMismatch field (.needsTextField op type)) := by
  simp only [comparison, h]
  rfl

theorem comparison_of_array {op : Operator} {items : List Scalar} (h : op.kind = .comparison)
    (hm : op.isMembership = true) :
    comparison field type (.array items) op =
      match checkTypes field type items with
      | .error e => .error e
      | .ok () => .ok (.member (op == .absent) items) := by
  simp only [comparison, h, hm, if_true]
  rfl

theorem comparison_of_single {op : Operator} {s : Scalar} (h : op.kind = .comparison)
    (hm : op.isMembership = false) :
    comparison field type (.single s) op =
      match checkTypes field type [s] with
      | .error e => .error e
      | .ok () =>
        if op.isOrdering && type != .number then
          .error (.typeMismatch field (.undefinedFor op type))
        else .ok (.relation op s) := by
  simp only [comparison, h, hm, checkTypes, Bool.false_eq_true, if_false, relationTest]
  cases checkType field type s <;> rfl

/-- Comparing with constants goes wrong at the first of another type, else where there is no
order. -/
theorem verdict_comparison (hv : c.Valid) (h : c.operator.kind = .comparison) :
    verdict (comparison field type c.value c.operator) =
      match checkTypes field type c.value.scalars with
      | .error e => .error e
      | .ok () =>
        if c.operator.isOrdering = true ∧ type ≠ .number then
          .error (.typeMismatch field (.undefinedFor c.operator type))
        else .ok () := by
  obtain ⟨p, -, ht⟩ | ⟨items, hval, hk, hm⟩ | ⟨s, hval, hk, hm⟩ := hv.shape
  · rw [h] at ht
    cases ht
  · have ho := Operator.not_isOrdering_of_isMembership hm
    rw [hval, comparison_of_array hk hm, Constant.scalars]
    cases checkTypes field type items with
    | error e => rfl
    | ok u => simp [verdict, ho]
  · rw [hval, comparison_of_single hk hm, Constant.scalars]
    cases checkTypes field type [s] with
    | error e => rfl
    | ok u =>
      by_cases hn : c.operator.isOrdering = true ∧ type ≠ .number
      · simp [verdict, hn]
      · have hn' : (c.operator.isOrdering && type != .number) = false := by
          simpa using hn
        simp [verdict, hn, hn']

theorem verdict_comparison_of_text (hv : c.Valid) (h : c.operator.kind = .text) :
    verdict (comparison field type c.value c.operator) =
      if type = .text then .ok ()
      else .error (.typeMismatch field (.needsTextField c.operator type)) := by
  obtain ⟨p, hval⟩ := hv.pattern_of_text h
  rw [hval, comparison_of_pattern h]
  split <;> rfl

theorem unfit_iff_of_text {reason : Mismatch} (h : c.operator.kind = .text) :
    c.Unfit type reason ↔ type ≠ .text ∧ reason = .needsTextField c.operator type := by
  constructor
  · intro hu
    cases hu with
    | search _ differs => exact ⟨differs, rfl⟩
    | constant compares => rw [h] at compares; cases compares
    | order orders =>
      rw [(Operator.comparison_of_isOrdering orders).1] at h
      cases h
  · rintro ⟨hd, rfl⟩
    exact .search h hd

theorem unfit_iff_of_comparison {e : RuleError} (h : c.operator.kind = .comparison) :
    (∃ reason, c.Unfit type reason ∧ e = .typeMismatch field reason) ↔
      checkTypes field type c.value.scalars = .error e ∨
        (checkTypes field type c.value.scalars = .ok () ∧ c.operator.isOrdering = true ∧
          type ≠ .number ∧ e = .typeMismatch field (.undefinedFor c.operator type)) := by
  rw [checkTypes_eq_error_iff, checkTypes_eq_ok_iff]
  constructor
  · rintro ⟨reason, hu, rfl⟩
    cases hu with
    | search searches => rw [h] at searches; cases searches
    | constant _ scalars same differs => exact .inl ⟨_, _, _, scalars, same, differs, rfl⟩
    | order orders same differs => exact .inr ⟨same, orders, differs, rfl⟩
  · rintro (⟨before, s, after, hs, hb, hd, rfl⟩ | ⟨hs, ho, hd, rfl⟩)
    · exact ⟨_, .constant h hs hb hd, rfl⟩
    · exact ⟨_, .order ho hs hd, rfl⟩

/-- The test of a field of a known type. -/
theorem comparison_judged (hv : c.Valid) :
    Judged (comparison field type c.value c.operator) (c.Suits type)
      (fun e => ∃ reason, c.Unfit type reason ∧ e = .typeMismatch field reason) := by
  obtain hk | hk : c.operator.kind = .text ∨ c.operator.kind = .comparison := by
    obtain ⟨p, -, hk⟩ | ⟨items, -, hk, -⟩ | ⟨s, -, hk, -⟩ := hv.shape
    · exact .inl hk
    · exact .inr hk
    · exact .inr hk
  · refine .of_verdict ?_ fun e => ?_
    · rw [verdict_comparison_of_text hv hk, Condition.suits_of_text hk]
      split <;> simp_all
    · simp only [verdict_comparison_of_text hv hk, unfit_iff_of_text hk]
      by_cases ht : type = .text
      · simp [ht]
      · simp [ht, eq_comm]
  · refine .of_verdict ?_ fun e => ?_
    · rw [verdict_comparison hv hk, Condition.suits_of_comparison hk,
        ← @checkTypes_eq_ok_iff field]
      cases checkTypes field type c.value.scalars with
      | error e => simp
      | ok u =>
        by_cases ho : c.operator.isOrdering = true ∧ type ≠ .number
        · simp [ho]
        · have ho' : c.operator.isOrdering = true → type = .number := by simpa using ho
          simpa [ho] using ho'
    · rw [verdict_comparison hv hk, unfit_iff_of_comparison hk]
      cases checkTypes field type c.value.scalars with
      | error e' => simp
      | ok u =>
        by_cases ho : c.operator.isOrdering = true ∧ type ≠ .number
        · simp [ho, eq_comm]
        · simp only [if_neg ho, reduceCtorEq, false_or, true_and, false_iff]
          rintro ⟨hord, hn, -⟩
          exact ho ⟨hord, hn⟩

end Comparisons

/-! ## Fields of a schema -/

section Fields

variable {α : Type} {t : RecordType α} {name : String} {c : Condition}

theorem wellTyped_iff {type : ValueType} (h : FirstEntry t.schema name type) :
    c.WellTyped t.schema name ↔ c.Suits type := by
  constructor
  · rintro ⟨type', h', hs⟩
    have he : some type' = some type :=
      (fieldType?_eq_some_iff.mpr h').symm.trans (fieldType?_eq_some_iff.mpr h)
    cases he
    exact hs
  · intro hs
    exact ⟨type, h, hs⟩

theorem fieldFault_iff {type : ValueType} {e : RuleError} (h : FirstEntry t.schema name type) :
    c.FieldFault t name e ↔ ∃ reason, c.Unfit type reason ∧ e = .typeMismatch name reason := by
  have hlookup := fieldType?_eq_some_iff.mpr h
  constructor
  · intro hf
    cases hf with
    | unknown absent =>
      rw [fieldType?_eq_none_iff.mpr absent] at hlookup
      cases hlookup
    | unfit entry fault =>
      rw [fieldType?_eq_some_iff.mpr entry] at hlookup
      cases hlookup
      exact ⟨_, fault, rfl⟩
  · rintro ⟨reason, hu, rfl⟩
    exact .unfit h hu

/-- The test of the field of a record type with a given name. -/
theorem fieldTest_judged (hv : c.Valid) :
    Judged (t.fieldTest name c.value c.operator) (c.WellTyped t.schema name)
      (c.FieldFault t name) := by
  cases hf : fieldType? t.schema name with
  | none =>
    have habsent := fieldType?_eq_none_iff.mp hf
    have hbad : ¬c.WellTyped t.schema name := by
      rintro ⟨type, h, -⟩
      rw [fieldType?_eq_some_iff.mpr h] at hf
      cases hf
    refine .of_verdict ?_ fun e => ?_
    · simpa [RecordType.fieldTest, hf, verdict] using hbad
    · simp only [RecordType.fieldTest, hf, verdict, Except.error.injEq]
      constructor
      · rintro rfl
        exact .unknown habsent
      · intro h
        cases h with
        | unknown => rfl
        | unfit entry => rw [fieldType?_eq_some_iff.mpr entry] at hf; cases hf
  | some type =>
    have hentry := fieldType?_eq_some_iff.mp hf
    have hc := @comparison_judged name type c hv
    have htest : verdict (t.fieldTest name c.value c.operator) =
        verdict (comparison name type c.value c.operator) := by
      simp only [RecordType.fieldTest, hf]
      cases comparison name type c.value c.operator <;> rfl
    refine .of_verdict ?_ fun e => ?_
    · rw [htest, verdict_eq_ok_iff, hc.isOk_iff, wellTyped_iff hentry]
    · rw [htest, verdict_eq_error_iff, hc.isError_iff, fieldFault_iff hentry]

end Fields

/-! ## Stored values -/

namespace Condition

/-- An order of stored values needs a constant whose text is a number. -/
def Orderable (c : Condition) : Prop :=
  c.operator.isOrdering = true → ∀ s ∈ c.value.scalars, (Number.read? s.rendered).isSome = true

def OrderFault (c : Condition) (e : RuleError) : Prop :=
  c.operator.isOrdering = true ∧ ∃ s, c.value = .single s ∧ Number.read? s.rendered = none ∧
    e = .numericParse (String.ofList s.rendered)

end Condition

namespace AttributeTest

variable {key : String} {c : Condition}

theorem make_of_ordering {op : Operator} (h : op.isOrdering = true) (s : Scalar) :
    make key op (.single s) =
      match Number.read? s.rendered with
      | some bound => .ok (.order op bound)
      | none => .error (.numericParse (String.ofList s.rendered)) := by
  cases op <;> first | rfl | cases h

theorem make_isOk (hv : c.Valid) (h : c.operator.isOrdering = false) :
    ∃ test, make key c.operator c.value = .ok test := by
  obtain ⟨p, hval, hk⟩ | ⟨items, hval, -, hm⟩ | ⟨s, hval, hk, hm⟩ := hv.shape
  · rw [hval]
    revert hk
    cases c.operator <;> first | exact fun _ => ⟨_, rfl⟩ | (intro hk; cases hk)
  · rw [hval]
    revert hm
    cases c.operator <;> first | exact fun _ => ⟨_, rfl⟩ | (intro hm; cases hm)
  · rw [hval]
    obtain he | he := Operator.eq_or_neq hk hm h
    · exact ⟨_, by rw [he]; rfl⟩
    · exact ⟨_, by rw [he]; rfl⟩

theorem make_judged (hv : c.Valid) :
    Judged (make key c.operator c.value) c.Orderable c.OrderFault := by
  cases ho : c.operator.isOrdering with
  | false =>
    obtain ⟨test, h⟩ : ∃ test, make key c.operator c.value = .ok test := make_isOk hv ho
    refine .of_verdict ?_ fun e => ?_
    · simp [h, verdict, Condition.Orderable, ho]
    · simp [h, verdict, Condition.OrderFault, ho]
  | true =>
    obtain ⟨hk, hm⟩ := Operator.comparison_of_isOrdering ho
    obtain ⟨s, hval⟩ := hv.single_of_comparison hk hm
    refine .of_verdict ?_ fun e => ?_
    · rw [hval, make_of_ordering ho]
      cases hn : Number.read? s.rendered <;>
        simp [verdict, Condition.Orderable, ho, hval, Constant.scalars, hn]
    · rw [hval, make_of_ordering ho]
      cases hn : Number.read? s.rendered <;>
        simp [verdict, Condition.OrderFault, ho, hval, hn, eq_comm]

end AttributeTest

end RecordRules
