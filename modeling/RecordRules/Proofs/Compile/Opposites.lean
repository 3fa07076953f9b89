import RecordRules.Proofs.Compile.Agreement
import RecordRules.Proofs.Compile.Membership
import RecordRules.Proofs.Compile.Route

/-!
# RecordRules.Proofs.Compile.Opposites

Operators that rule each other out (`Operator.Opposite`). Of a value that stands in some order to
the constant, one of two opposites holds and the other does not. Of any other value neither does: a
missing value, a NaN and a constant that is a NaN make every relation false. Membership has no such
gap, since a value that is there is in a list or out of it.

All of this is about comparisons of a value (`ValueTest`), whichever compiler made them and
whichever record the value comes from. `Target.Compares` says that the conditions on a field are
such comparisons, and `Target.Complementary` is what follows.
-/

namespace RecordRules

namespace Operator

/-- The operators that compare a value with a single constant. -/
def relational : List Operator :=
  [.eq, .neq, .gt, .lt, .gte, .lte]

/-- The second operator asks for what the first rules out. -/
inductive Opposite : Operator → Operator → Prop where
  | equal : Opposite .eq .neq
  | greater : Opposite .gt .lte
  | less : Opposite .lt .gte

theorem comparison_of_mem_relational {op : Operator} (h : op ∈ relational) :
    op.kind = .comparison ∧ op.isMembership = false := by
  revert h
  cases op <;> decide

theorem Opposite.mem_relational {op op' : Operator} (h : Opposite op op') :
    op ∈ relational ∧ op' ∈ relational := by
  cases h <;> decide

theorem Opposite.holds_eq {op op' : Operator} (h : Opposite op op') (o : Ordering) :
    op'.holds o = !op.holds o := by
  cases h <;> cases o <;> rfl

/-- Of less, equal and greater exactly one is the order of two values. -/
theorem count_holds (o : Ordering) :
    [holds .lt o, holds .eq o, holds .gt o].count true = 1 := by
  cases o <;> rfl

end Operator

/-! ## Values -/

namespace Value

def isNaN : Value → Bool
  | .number n => n.isNaN
  | _ => false

variable {v : Value} {x : Scalar}

theorem incomparable_of_isNaN (h : v.isNaN = true ∨ x.toValue.isNaN = true) :
    v.Incomparable x := by
  by_cases hty : v.type? = some x.type
  · cases v with
    | number n =>
      cases x with
      | number m => exact .inr ⟨n, m, rfl, rfl, h⟩
      | _ => cases hty
    | none => cases hty
    | text s =>
      cases x with
      | text s' => simp [isNaN, Scalar.toValue] at h
      | _ => cases hty
    | bool b =>
      cases x with
      | bool b' => simp [isNaN, Scalar.toValue] at h
      | _ => cases hty
  · exact .inl hty

/-- A value that is there, of the constant's type, stands in some order to the constant unless one
of them is a NaN. -/
theorem exists_order (hthere : v ≠ .none) (htype : v.Conforms x.type) (hv : v.isNaN = false)
    (hx : x.toValue.isNaN = false) : ∃ o, v.order? x.toValue = some o := by
  rw [← Option.isSome_iff_exists, Option.isSome_iff_ne_none, Ne, order?_eq_none_iff]
  rintro (hdiffers | ⟨n, m, rfl, rfl, hnan⟩)
  · exact hdiffers (htype.resolve_left hthere)
  · rcases hnan with hn | hm
    · exact absurd hn (by simpa [isNaN] using hv)
    · exact absurd hm (by simpa [isNaN, Scalar.toValue] using hx)

end Value

def Constant.isNaN : Constant → Bool
  | .single x => x.toValue.isNaN
  | _ => false

/-! ## Tests of a value -/

namespace ValueTest

variable {v : Value} {x : Scalar} {op op' : Operator}

theorem holds_none (test : ValueTest) : test.holds .none = false := by
  cases test <;> rfl

theorem holds_absent (hthere : v ≠ .none) (items : List Scalar) :
    (member true items).holds v = !(member false items).holds v := by
  cases v with
  | none => exact absurd rfl hthere
  | _ => simp [holds]

theorem holds_relation {o : Ordering} (h : v.order? x.toValue = some o) (op : Operator) :
    (relation op x).holds v = op.holds o := by
  rw [holds, h]

theorem holds_relation_of_isNaN (h : v.isNaN = true ∨ x.toValue.isNaN = true) (op : Operator) :
    (relation op x).holds v = false := by
  rw [holds, Value.order?_eq_none_iff.mpr (Value.incomparable_of_isNaN h)]

end ValueTest

section Comparisons

variable {name : String} {type : ValueType} {constant : Constant} {op : Operator}
  {test : ValueTest}

theorem exists_array_of_comparison (hop : op.isMembership = true)
    (h : comparison name type constant op = .ok test) :
    ∃ items, constant = .array items ∧ test = .member (op == .absent) items := by
  cases constant with
  | array items =>
    rw [comparison_of_array (Operator.kind_of_isMembership hop) hop] at h
    split at h
    · cases h
    · cases h
      exact ⟨items, rfl, rfl⟩
  | _ =>
    simp only [comparison, Operator.kind_of_isMembership hop, hop] at h
    cases h

theorem exists_single_of_comparison (hop : op ∈ Operator.relational)
    (h : comparison name type constant op = .ok test) :
    ∃ x, constant = .single x ∧ x.type = type ∧ test = .relation op x := by
  obtain ⟨hkind, hmember⟩ := Operator.comparison_of_mem_relational hop
  cases constant with
  | single x =>
    rw [comparison_of_single hkind hmember] at h
    split at h
    · cases h
    · rename_i htypes
      split at h
      · cases h
      · cases h
        exact ⟨x, rfl, Comparison.checkTypes_eq_ok_iff.mp htypes x List.mem_cons_self, rfl⟩
  | _ =>
    simp only [comparison, hkind, hmember] at h
    cases h

end Comparisons

/-! ## Conditions on a field -/

namespace Target

variable {α L : Type}

def Compiles (T : Target α L) (c : Condition) : Prop :=
  ∃ l, T.leaf c = .ok l

/-- The conditions on a field are comparisons of a value of a known type, which is read from the
record without failure. -/
def Compares (T : Target α L) (a : α) (field : String) (type : ValueType) (v : Value) : Prop :=
  ∀ op constant, T.Compiles ⟨field, op, constant⟩ →
    ∃ name test, comparison name type constant op = .ok test ∧
      T.value a ⟨field, op, constant⟩ = .ok (test.holds v)

/-- What conditions on one field with one constant say of a record with a value there. -/
structure Complementary (T : Target α L) (a : α) (field : String) (type : ValueType) (v : Value) :
    Prop where
  /-- Nothing holds of a missing value. -/
  missing : v = .none → ∀ op constant, T.Compiles ⟨field, op, constant⟩ →
    T.value a ⟨field, op, constant⟩ = .ok false
  /-- A value that is there is in a list or out of it. -/
  membership : v ≠ .none → ∀ constant, T.Compiles ⟨field, .member, constant⟩ →
    T.Compiles ⟨field, .absent, constant⟩ →
      ∃ b, T.value a ⟨field, .member, constant⟩ = .ok b ∧
        T.value a ⟨field, .absent, constant⟩ = .ok !b
  /-- Where there is no NaN, one of two opposites holds. -/
  opposite : v ≠ .none → v.isNaN = false → ∀ constant : Constant, constant.isNaN = false →
    ∀ op op', Operator.Opposite op op' → T.Compiles ⟨field, op, constant⟩ →
      T.Compiles ⟨field, op', constant⟩ →
        ∃ b, T.value a ⟨field, op, constant⟩ = .ok b ∧ T.value a ⟨field, op', constant⟩ = .ok !b
  /-- Two numbers are less, equal or greater, and no two of these. -/
  trichotomy : type = .number → v ≠ .none → v.isNaN = false →
    ∀ constant : Constant, constant.isNaN = false → T.Compiles ⟨field, .lt, constant⟩ →
      T.Compiles ⟨field, .eq, constant⟩ → T.Compiles ⟨field, .gt, constant⟩ →
        ∃ less equal greater, T.value a ⟨field, .lt, constant⟩ = .ok less ∧
          T.value a ⟨field, .eq, constant⟩ = .ok equal ∧
          T.value a ⟨field, .gt, constant⟩ = .ok greater ∧ [less, equal, greater].count true = 1
  /-- A NaN stands in no relation. -/
  unordered : ∀ constant : Constant, v.isNaN = true ∨ constant.isNaN = true →
    ∀ op ∈ Operator.relational, T.Compiles ⟨field, op, constant⟩ →
      T.value a ⟨field, op, constant⟩ = .ok false

namespace Compares

variable {T : Target α L} {a : α} {field : String} {type : ValueType} {v : Value}
  {constant : Constant}

/-- A target whose tests are those of another in another form compares the same value. -/
theorem of_map {β L' : Type} {T' : Target β L'} {b : β} {f : L' → L}
    (h : T'.Compares b field type v)
    (hleaf : ∀ op constant, T.leaf ⟨field, op, constant⟩ = (T'.leaf ⟨field, op, constant⟩).map f)
    (hf : ∀ l, T.holds a (f l) = T'.holds b l) : T.Compares a field type v := by
  rintro op constant ⟨l, hl⟩
  obtain ⟨l', hl', rfl⟩ := exists_of_map_eq_ok ((hleaf op constant).symm.trans hl)
  rw [value_of_map (hleaf op constant) hf]
  exact h op constant ⟨l', hl'⟩

/-- Where there is no NaN, every relation is told by one order. -/
theorem exists_order (h : T.Compares a field type v) (hv : v.Conforms type) (hthere : v ≠ .none)
    (hnan : v.isNaN = false) (hconstant : constant.isNaN = false) {op₀ : Operator}
    (hop₀ : op₀ ∈ Operator.relational) (hcompiles : T.Compiles ⟨field, op₀, constant⟩) :
    ∃ o, ∀ op ∈ Operator.relational, T.Compiles ⟨field, op, constant⟩ →
      T.value a ⟨field, op, constant⟩ = .ok (op.holds o) := by
  obtain ⟨name₀, test₀, htest₀, -⟩ := h op₀ constant hcompiles
  obtain ⟨x, rfl, rfl, -⟩ := exists_single_of_comparison hop₀ htest₀
  obtain ⟨o, ho⟩ := Value.exists_order hthere hv hnan hconstant
  refine ⟨o, fun op hop hc => ?_⟩
  obtain ⟨name, test, htest, hvalue⟩ := h op (.single x) hc
  obtain ⟨x', hx, -, rfl⟩ := exists_single_of_comparison hop htest
  cases hx
  rw [hvalue, ValueTest.holds_relation ho]

theorem value_of_missing (h : T.Compares a field type v) (hv : v = .none) {op : Operator}
    (hcompiles : T.Compiles ⟨field, op, constant⟩) :
    T.value a ⟨field, op, constant⟩ = .ok false := by
  obtain ⟨name, test, -, hvalue⟩ := h op constant hcompiles
  rw [hvalue, hv, ValueTest.holds_none]

theorem value_of_isNaN (h : T.Compares a field type v)
    (hnan : v.isNaN = true ∨ constant.isNaN = true) {op : Operator}
    (hop : op ∈ Operator.relational) (hcompiles : T.Compiles ⟨field, op, constant⟩) :
    T.value a ⟨field, op, constant⟩ = .ok false := by
  obtain ⟨name, test, htest, hvalue⟩ := h op constant hcompiles
  obtain ⟨x, rfl, -, rfl⟩ := exists_single_of_comparison hop htest
  rw [hvalue, ValueTest.holds_relation_of_isNaN hnan]

theorem value_of_absent (h : T.Compares a field type v) (hthere : v ≠ .none)
    (hmember : T.Compiles ⟨field, .member, constant⟩)
    (habsent : T.Compiles ⟨field, .absent, constant⟩) :
    ∃ b, T.value a ⟨field, .member, constant⟩ = .ok b ∧
      T.value a ⟨field, .absent, constant⟩ = .ok !b := by
  obtain ⟨name, test, htest, hvalue⟩ := h .member constant hmember
  obtain ⟨name', test', htest', hvalue'⟩ := h .absent constant habsent
  obtain ⟨items, rfl, rfl⟩ := exists_array_of_comparison rfl htest
  obtain ⟨items', hitems, rfl⟩ := exists_array_of_comparison rfl htest'
  cases hitems
  refine ⟨_, hvalue, ?_⟩
  rw [hvalue']
  exact congrArg Except.ok (ValueTest.holds_absent hthere items)

theorem complementary (h : T.Compares a field type v) (hv : v.Conforms type) :
    T.Complementary a field type v where
  missing hnone op constant hcompiles := h.value_of_missing hnone hcompiles
  membership hthere constant hmember habsent := h.value_of_absent hthere hmember habsent
  opposite hthere hnan constant hconstant op op' hopposite hcompiles hcompiles' := by
    obtain ⟨hop, hop'⟩ := hopposite.mem_relational
    obtain ⟨o, ho⟩ := h.exists_order hv hthere hnan hconstant hop hcompiles
    refine ⟨op.holds o, ho op hop hcompiles, ?_⟩
    rw [ho op' hop' hcompiles', hopposite.holds_eq]
  trichotomy _ hthere hnan constant hconstant hless hequal hgreater := by
    obtain ⟨o, ho⟩ := h.exists_order hv hthere hnan hconstant (by decide) hless
    exact ⟨_, _, _, ho .lt (by decide) hless, ho .eq (by decide) hequal,
      ho .gt (by decide) hgreater, Operator.count_holds o⟩
  unordered constant hnan op hop hcompiles := h.value_of_isNaN hnan hop hcompiles

end Compares
end Target

/-! ## Compilers -/

section Fields

variable {α : Type} {t : RecordType α} {name : String} {type : ValueType} {constant : Constant}
  {op : Operator} {f : FieldTest}

theorem comparison_of_fieldTest (hfield : fieldType? t.schema name = some type)
    (h : t.fieldTest name constant op = .ok f) :
    ∃ test, comparison name type constant op = .ok test ∧
      ∀ a, f.evaluate t a = .ok (test.holds (t.read a name)) := by
  rw [RecordType.fieldTest, hfield] at h
  dsimp only at h
  split at h
  · cases h
  · rename_i test htest
    cases h
    exact ⟨test, htest, fun a => rfl⟩

end Fields

theorem Flat.compares {α : Type} {t : RecordType α} {field : String} {type : ValueType}
    (hfield : fieldType? t.schema field = some type) (a : α) :
    (target t).Compares a field type (t.read a field) := by
  rintro op constant ⟨f, hf⟩
  obtain ⟨test, htest, hvalue⟩ := comparison_of_fieldTest hfield hf
  refine ⟨field, test, htest, ?_⟩
  rw [Target.value_of_leaf _ hf]
  exact hvalue a

theorem Entities.compares {α : Type} {conventions : Conventions} {t : EntityType α}
    {field : String} {type : ValueType}
    (hroute : ∀ key, ¬Routed conventions.attributeLead field key)
    (hfield : fieldType? t.schema field = some type) (a : α) :
    (target conventions t).Compares a field type (t.read a field) :=
  (Flat.compares hfield a).of_map (fun _ _ => leaf_of_unrouted hroute) fun _ => rfl

namespace Owned

variable {α β : Type} {conventions : Conventions} {t : AttributeType α β} {field : String}
  {type : ValueType}

theorem compares (hroute : ∀ name, ¬Routed conventions.ownerLead field name)
    (hfield : fieldType? t.schema field = some type) (a : α) :
    (target conventions t).Compares a field type (t.read a field) :=
  (Flat.compares hfield a).of_map (fun _ _ => leaf_of_unrouted hroute) fun _ => rfl

/-- The value of a field of the owner, which is missing where there is no owner. -/
def ownerValue (t : AttributeType α β) (a : α) (name : String) : Value :=
  match t.owner a with
  | some b => t.ownerType.read b name
  | none => .none

theorem compares_owner {name : String} (hroute : Routed conventions.ownerLead field name)
    (hfield : fieldType? t.ownerType.schema name = some type) (a : α) :
    (target conventions t).Compares a field type (ownerValue t a name) := by
  rintro op constant ⟨l, hl⟩
  have hleaf : ownerLeaf t.ownerType name ⟨field, op, constant⟩ = .ok l :=
    (leaf_of_routed hroute).symm.trans hl
  rw [ownerLeaf_eq] at hleaf
  split at hleaf
  · cases hleaf
  · obtain ⟨f, hf, rfl⟩ := exists_of_map_eq_ok hleaf
    obtain ⟨test, htest, hvalue⟩ := comparison_of_fieldTest hfield hf
    refine ⟨name, test, htest, ?_⟩
    rw [Target.value_of_leaf _ hl, ownerValue]
    show OwnedTest.evaluate t a (.owner f) = _
    rw [OwnedTest.evaluate]
    cases t.owner a with
    | none => rw [ValueTest.holds_none]
    | some b => exact hvalue b

end Owned

/-- **Opposite operators are complements exactly on values that can be compared.** Each compiler
makes of the conditions on a field of known type, of the record itself or of its owner,
complementary tests of the value there. The value is missing or has the type that the schema
promises; a missing owner is a missing value. -/
theorem opposites_complementary (conventions : Conventions) (field : String) (type : ValueType) :
    (∀ {α : Type} (t : RecordType α) (a : α), fieldType? t.schema field = some type →
      (t.read a field).Conforms type →
        (Flat.target t).Complementary a field type (t.read a field)) ∧
    (∀ {α : Type} (t : EntityType α) (a : α),
      (∀ key, ¬Routed conventions.attributeLead field key) →
      fieldType? t.schema field = some type → (t.read a field).Conforms type →
        (Entities.target conventions t).Complementary a field type (t.read a field)) ∧
    (∀ {α β : Type} (t : AttributeType α β) (a : α),
      (∀ name, ¬Routed conventions.ownerLead field name) →
      fieldType? t.schema field = some type → (t.read a field).Conforms type →
        (Owned.target conventions t).Complementary a field type (t.read a field)) ∧
    (∀ {α β : Type} (t : AttributeType α β) (a : α) (name : String),
      Routed conventions.ownerLead field name →
      fieldType? t.ownerType.schema name = some type →
      (Owned.ownerValue t a name).Conforms type →
        (Owned.target conventions t).Complementary a field type (Owned.ownerValue t a name)) := by
  refine ⟨fun t a hfield hv => ?_, fun t a hroute hfield hv => ?_, fun t a hroute hfield hv => ?_,
    fun t a name hroute hfield hv => ?_⟩
  · exact (Flat.compares hfield a).complementary hv
  · exact (Entities.compares hroute hfield a).complementary hv
  · exact (Owned.compares hroute hfield a).complementary hv
  · exact (Owned.compares_owner hroute hfield a).complementary hv

/-- Records with a level, which is a number. -/
def gauge : RecordType Row :=
  Row.type "gauges" [⟨"level", .number⟩]

def fullGauge : Row :=
  [("level", .number (.unsigned 18446744073709551615))]

/-- Checks of gauges, none of which leads to the gauge. -/
def strayChecks : AttributeType Row Row :=
  { Row.type "checks" [⟨"level", .number⟩] with ownerType := gauge, link := fun _ => some ⟨none⟩ }

/-- The largest unsigned number against a negative one and against a NaN, and the level of an owner
that is not there. -/
theorem opposites_complementary_gauge :
    fieldType? gauge.schema "level" = some .number ∧
      (gauge.read fullGauge "level").Conforms .number ∧
      Routed Conventions.standard.ownerLead "employee.level" "level" ∧
      (Owned.ownerValue strayChecks [] "level").Conforms .number ∧
      (∃ b, (Flat.target gauge).value fullGauge
          ⟨"level", .gt, .single (.number (.signed (-1)))⟩ = .ok b ∧
        (Flat.target gauge).value fullGauge
          ⟨"level", .lte, .single (.number (.signed (-1)))⟩ = .ok !b) ∧
      (Flat.target gauge).value fullGauge
        ⟨"level", .neq, .single (.number (.float ⟨0x7FF8000000000000⟩))⟩ = .ok false ∧
      (Owned.target .standard strayChecks).value []
        ⟨"employee.level", .absent, .array [.number (.signed (-1))]⟩ = .ok false := by
  have hfield : fieldType? gauge.schema "level" = some .number := by rfl
  have hfull : (gauge.read fullGauge "level").Conforms .number := .inr (by rfl)
  have hroute : Routed Conventions.standard.ownerLead "employee.level" "level" :=
    ⟨by decide, by decide⟩
  have hstray : (Owned.ownerValue strayChecks [] "level").Conforms .number := .inl (by rfl)
  have hthere : gauge.read fullGauge "level" ≠ .none := nofun
  have h := (opposites_complementary .standard "level" .number).1 gauge fullGauge hfield hfull
  have howner := (opposites_complementary .standard "employee.level" .number).2.2.2
    strayChecks [] "level" hroute hfield hstray
  refine ⟨hfield, hfull, hroute, hstray, ?_, ?_, ?_⟩
  · exact h.opposite hthere (by rfl) _ (by rfl) _ _ .greater ⟨_, rfl⟩ ⟨_, rfl⟩
  · exact h.unordered _ (.inr (by decide)) _ (by decide) ⟨_, rfl⟩
  · exact howner.missing (by rfl) _ _ ⟨_, rfl⟩

end RecordRules
