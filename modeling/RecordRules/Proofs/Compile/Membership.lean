import RecordRules.Proofs.Compile.Meaning
import RecordRules.Proofs.Number.Order

/-!
# RecordRules.Proofs.Compile.Membership

Membership told by equality. To be in a list is to equal one of its members, and the test of it is
the disjunction of the tests for equality. Not to be in a list is almost the conjunction of the
tests for inequality; the two differ over values that cannot be compared with a constant
(`Value.Incomparable`), of which no relation holds, not even inequality. A value is in no list that
it cannot be compared with, so there the membership test holds where the conjunction does not
(`Value.Unrelated`).
-/

namespace RecordRules

namespace Value

/-- The value has not the type of the constant, or one of two numbers is a NaN. -/
def Incomparable (v : Value) (x : Scalar) : Prop :=
  v.type? ≠ some x.type ∨
    ∃ n m, v = .number n ∧ x = .number m ∧ (n.isNaN = true ∨ m.isNaN = true)

theorem order?_eq_none_iff {v : Value} {x : Scalar} :
    v.order? x.toValue = Option.none ↔ v.Incomparable x := by
  cases v with
  | none => simp [order?, Incomparable, type?]
  | text s => cases x <;> simp [order?, Incomparable, type?, Scalar.type, Scalar.toValue]
  | bool b => cases x <;> simp [order?, Incomparable, type?, Scalar.type, Scalar.toValue]
  | number n =>
    cases x with
    | number m =>
      rw [Scalar.toValue, order?, Number.order?_eq_none_iff]
      simp [Incomparable, type?, Scalar.type]
    | _ => simp [order?, Incomparable, type?, Scalar.type, Scalar.toValue]

/-- A value that is there, equals none of the constants and cannot be compared with one of them. -/
def Unrelated (v : Value) (xs : List Scalar) : Prop :=
  v ≠ .none ∧ (∀ x ∈ xs, v.order? x.toValue ≠ some .eq) ∧ ∃ x ∈ xs, v.Incomparable x

end Value

/-! ## Meaning -/

namespace Condition

variable {field : String} {xs : List Scalar} {v : Value}

theorem holdsOf_eq_iff {x : Scalar} :
    HoldsOf ⟨field, .eq, .single x⟩ v ↔ v.order? x.toValue = some .eq := by
  constructor
  · rintro ⟨o, ho, rfl⟩
    exact ho
  · intro h
    exact ⟨_, h, rfl⟩

theorem holdsOf_member_iff :
    HoldsOf ⟨field, .member, .array xs⟩ v ↔ ∃ x ∈ xs, HoldsOf ⟨field, .eq, .single x⟩ v := by
  simp only [holdsOf_eq_iff]
  refine ⟨fun h => h.2, fun h => ⟨?_, h⟩⟩
  rintro rfl
  obtain ⟨x, -, hx⟩ := h
  cases hx

/-- Where values can be compared, inequality is the opposite of equality. -/
theorem holdsOf_absent_iff (hne : xs ≠ []) (h : ¬v.Unrelated xs) :
    HoldsOf ⟨field, .absent, .array xs⟩ v ↔ ∀ x ∈ xs, HoldsOf ⟨field, .neq, .single x⟩ v := by
  constructor
  · rintro ⟨hthere, hdiffers⟩ x hx
    cases ho : v.order? x.toValue with
    | none => exact absurd ⟨hthere, hdiffers, x, hx, Value.order?_eq_none_iff.mp ho⟩ h
    | some o =>
      refine ⟨o, ho, ?_⟩
      rintro rfl
      exact hdiffers x hx ho
  · intro hall
    refine ⟨?_, fun x hx heq => ?_⟩
    · -- a missing value differs from nothing, and there is something to differ from
      rintro rfl
      obtain ⟨x, hx⟩ := List.exists_mem_of_ne_nil xs hne
      exact not_holdsOf_none _ (hall x hx)
    · obtain ⟨o, ho, hrelates⟩ := hall x hx
      rw [heq] at ho
      cases ho
      exact hrelates rfl

theorem holdsOf_absent_of_unrelated (field : String) (h : v.Unrelated xs) :
    HoldsOf ⟨field, .absent, .array xs⟩ v ∧ ∃ x ∈ xs, ¬HoldsOf ⟨field, .neq, .single x⟩ v := by
  obtain ⟨hthere, hdiffers, x, hx, hincomparable⟩ := h
  refine ⟨⟨hthere, hdiffers⟩, x, hx, ?_⟩
  rintro ⟨o, ho, -⟩
  rw [Value.order?_eq_none_iff.mpr hincomparable] at ho
  cases ho

end Condition

/-! ## Tests -/

/-- What a formula of tests on one field says of a value there. -/
def Formula.onValue (f : Formula ValueTest) (v : Value) : Except RuleError Bool :=
  f.evaluate fun test => test.evaluate (.ok v)

/-- The formula of a rule that compares a field of a known type with several constants, by the same
operator and in order. -/
def comparisons (field : String) (type : ValueType) (joint op : Operator) (xs : List Scalar) :
    Except RuleError (Formula ValueTest) :=
  (Rule.node joint (xs.map fun x => ⟨field, op, .single x⟩) []).formula fun c =>
    comparison c.field type c.value c.operator

section Comparisons

variable {field : String} {type : ValueType} {op joint : Operator} {xs : List Scalar}

theorem comparison_of_same_type {x : Scalar} (hx : x.type = type) (hop : op = .eq ∨ op = .neq) :
    comparison field type (.single x) op = .ok (.relation op x) := by
  have htypes : Comparison.checkTypes field type [x] = .ok () :=
    Comparison.checkTypes_eq_ok_iff.mpr (List.forall_mem_singleton.mpr hx)
  rcases hop with rfl | rfl
  · rw [comparison_of_single rfl rfl, htypes]
    rfl
  · rw [comparison_of_single rfl rfl, htypes]
    rfl

theorem comparison_of_members (hxs : ∀ x ∈ xs, x.type = type) (hop : op.isMembership = true) :
    comparison field type (.array xs) op = .ok (.member (op == .absent) xs) := by
  rw [comparison_of_array (Operator.kind_of_isMembership hop) hop,
    Comparison.checkTypes_eq_ok_iff.mpr hxs]

theorem conditionTests_of_same_type (hxs : ∀ x ∈ xs, x.type = type)
    (hop : op = .eq ∨ op = .neq) :
    Rule.conditionTests (fun c => comparison c.field type c.value c.operator)
        (xs.map fun x => ⟨field, op, .single x⟩) =
      .ok (xs.map fun x => .test (.relation op x)) := by
  have hcompares : op.isLogical = false := by
    rcases hop with rfl | rfl
    · rfl
    · rfl
  induction xs with
  | nil => rfl
  | cons x xs ih =>
    obtain ⟨hx, hxs⟩ := List.forall_mem_cons.mp hxs
    rw [List.map_cons, Rule.conditionTests, hcompares, comparison_of_same_type hx hop, ih hxs]
    rfl

/-- Comparisons with constants of the field's type compile, to what their joint answer is. -/
theorem exists_comparisons (field : String) (hxs : ∀ x ∈ xs, x.type = type)
    (hop : op = .eq ∨ op = .neq) (hjoint : joint = .and ∨ joint = .or) :
    ∃ f, comparisons field type joint op xs = .ok f ∧
      ∀ v, f.onValue v =
        joined joint (xs.map fun x => .ok ((ValueTest.relation op x).holds v)) := by
  obtain ⟨f, hf⟩ : ∃ f : Formula ValueTest,
      Formula.combine joint (xs.map fun x => .test (.relation op x)) = .ok f := by
    rcases hjoint with rfl | rfl
    · rcases xs with - | ⟨x, - | ⟨y, ys⟩⟩ <;> exact ⟨_, rfl⟩
    · rcases xs with - | ⟨x, - | ⟨y, ys⟩⟩ <;> exact ⟨_, rfl⟩
  refine ⟨f, ?_, fun v => ?_⟩
  · have hlogical : joint.isLogical = true := by
      rcases hjoint with rfl | rfl
      · rfl
      · rfl
    rw [comparisons, Rule.formula, if_pos hlogical, conditionTests_of_same_type hxs hop,
      Rule.formulas]
    simpa using hf
  · rw [Formula.onValue, Formula.evaluate_of_combine hf, List.map_map]
    rfl

end Comparisons

section Membership

variable {type : ValueType} {xs : List Scalar} {v : Value}

theorem any_equal (field : String) :
    (xs.any fun x => (ValueTest.relation .eq x).holds v) = true ↔
      ∃ x ∈ xs, Condition.HoldsOf ⟨field, .eq, .single x⟩ v := by
  rw [List.any_eq_true]
  exact exists_congr fun x => and_congr_right fun _ =>
    Condition.relation_iff_holdsOf (c := ⟨field, .eq, .single x⟩) rfl v

theorem all_unequal (field : String) :
    (xs.all fun x => (ValueTest.relation .neq x).holds v) = true ↔
      ∀ x ∈ xs, Condition.HoldsOf ⟨field, .neq, .single x⟩ v := by
  rw [List.all_eq_true]
  exact forall₂_congr fun x _ =>
    Condition.relation_iff_holdsOf (c := ⟨field, .neq, .single x⟩) rfl v

theorem absent_iff (field : String) :
    (ValueTest.member true xs).holds v = true ↔
      Condition.HoldsOf ⟨field, .absent, .array xs⟩ v :=
  Condition.member_iff_holdsOf (c := ⟨field, .absent, .array xs⟩) rfl rfl v

theorem any_equal_eq_member (field : String) :
    (xs.any fun x => (ValueTest.relation .eq x).holds v) = (ValueTest.member false xs).holds v := by
  rw [Bool.eq_iff_iff, any_equal field, ← Condition.holdsOf_member_iff]
  exact (Condition.member_iff_holdsOf (c := ⟨field, .member, .array xs⟩) rfl rfl v).symm

theorem all_unequal_eq_absent (field : String) (hne : xs ≠ []) (h : ¬v.Unrelated xs) :
    (xs.all fun x => (ValueTest.relation .neq x).holds v) =
      (ValueTest.member true xs).holds v := by
  rw [Bool.eq_iff_iff, all_unequal field, absent_iff field, Condition.holdsOf_absent_iff hne h]

theorem all_unequal_of_unrelated (field : String) (h : v.Unrelated xs) :
    (ValueTest.member true xs).holds v = true ∧
      (xs.all fun x => (ValueTest.relation .neq x).holds v) = false := by
  obtain ⟨habsent, x, hx, hdiffers⟩ := Condition.holdsOf_absent_of_unrelated field h
  refine ⟨(absent_iff field).mpr habsent, ?_⟩
  rw [Bool.eq_false_iff, Ne, all_unequal field]
  exact fun hall => hdiffers (hall x hx)

/-- **Membership is a fold of equality.** Over at least one constant of the field's type, the test
of a list is the disjunction of the tests for equality. The opposite test is the conjunction of the
tests for inequality but for values that equal none of the constants and cannot be compared with
one: such a value is in no list and yet not unequal to all of it. In an empty list is nothing, and
out of it is every value that is there. -/
theorem membership_folds_equality (field : String) (hxs : ∀ x ∈ xs, x.type = type) :
    ∃ member absent : ValueTest, ∃ equal unequal : Formula ValueTest,
      comparison field type (.array xs) .member = .ok member ∧
      comparison field type (.array xs) .absent = .ok absent ∧
      comparisons field type .or .eq xs = .ok equal ∧
      comparisons field type .and .neq xs = .ok unequal ∧
      (xs ≠ [] → ∀ v : Value,
        equal.onValue v = .ok (member.holds v) ∧
        (¬v.Unrelated xs → unequal.onValue v = .ok (absent.holds v)) ∧
        (v.Unrelated xs → absent.holds v = true ∧ unequal.onValue v = .ok false)) ∧
      (xs = [] → ∀ v : Value, member.holds v = false ∧ (absent.holds v = true ↔ v ≠ .none)) := by
  obtain ⟨equal, hequal, hany⟩ :=
    exists_comparisons field hxs (.inl rfl) (.inr rfl : Operator.or = .and ∨ _)
  obtain ⟨unequal, hunequal, hall⟩ :=
    exists_comparisons field hxs (.inr rfl) (.inl rfl : Operator.and = .and ∨ _)
  refine ⟨.member false xs, .member true xs, equal, unequal, comparison_of_members hxs rfl,
    comparison_of_members hxs rfl, hequal, hunequal, fun hne v => ⟨?_, fun h => ?_, fun h => ?_⟩,
    fun hnil v => ?_⟩
  · rw [hany, joined_or_of_ne_nil (by simpa using hne), untilDecided_true_of_ok,
      any_equal_eq_member field]
  · rw [hall, ← all_unequal_eq_absent field hne h]
    exact untilDecided_false_of_ok
  · obtain ⟨habsent, hfails⟩ := all_unequal_of_unrelated field h
    refine ⟨habsent, ?_⟩
    rw [hall, ← hfails]
    exact untilDecided_false_of_ok
  · subst hnil
    refine ⟨?_, ?_⟩
    · rw [← any_equal_eq_member field]
      rfl
    · rw [absent_iff field]
      exact ⟨fun h => h.1, fun h => ⟨h, fun x hx => absurd hx List.not_mem_nil⟩⟩

end Membership

/-- A whole number and a NaN, with which nothing can be compared. -/
def thresholds : List Scalar :=
  [.number (.signed 3), .number (.float ⟨0x7FF8000000000000⟩)]

/-- The float 3 is in the list, a text is out of it without being unequal to all of it, and a
missing value is neither in nor out. -/
theorem membership_folds_equality_thresholds :
    (∀ x ∈ thresholds, x.type = .number) ∧
      Value.Unrelated (.text "3") thresholds ∧
      ∃ member absent : ValueTest, ∃ equal unequal : Formula ValueTest,
        comparison "level" .number (.array thresholds) .member = .ok member ∧
        comparison "level" .number (.array thresholds) .absent = .ok absent ∧
        comparisons "level" .number .or .eq thresholds = .ok equal ∧
        comparisons "level" .number .and .neq thresholds = .ok unequal ∧
        member.holds (.number (.float ⟨0x4008000000000000⟩)) = true ∧
        equal.onValue (.number (.float ⟨0x4008000000000000⟩)) = .ok true ∧
        absent.holds (.text "3") = true ∧ unequal.onValue (.text "3") = .ok false ∧
        absent.holds .none = false ∧ unequal.onValue .none = .ok false := by
  have hxs : ∀ x ∈ thresholds, x.type = .number := by decide
  have hne : thresholds ≠ [] := List.cons_ne_nil _ _
  have htext : Value.Unrelated (.text "3") thresholds :=
    ⟨nofun, by decide, _, List.mem_cons_self, .inl nofun⟩
  have hnone : ¬Value.Unrelated .none thresholds := fun h => h.1 rfl
  obtain ⟨member, absent, equal, unequal, hmember, habsent, hequal, hunequal, hfold, -⟩ :=
    membership_folds_equality "level" hxs
  obtain ⟨htextAbsent, htextUnequal⟩ := (hfold hne _).2.2 htext
  obtain rfl : ValueTest.member false thresholds = member := by
    cases hmember
    rfl
  obtain rfl : ValueTest.member true thresholds = absent := by
    cases habsent
    rfl
  exact ⟨hxs, htext, _, _, equal, unequal, hmember, habsent, hequal, hunequal, rfl,
    (hfold hne _).1, htextAbsent, htextUnequal, rfl, (hfold hne _).2.1 hnone⟩

end RecordRules
