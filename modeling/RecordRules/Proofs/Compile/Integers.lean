import RecordRules.Proofs.Compile.Search
import RecordRules.Proofs.Number.Integer

/-!
# RecordRules.Proofs.Compile.Integers

Whole numbers are compared exactly, all the way from a constant and a stored text to the answer of
a predicate.

A constant is written as text and read again, a stored value is read once, and each may take another
of the two representations. `read?_of_isIntegerText` and `Number.order?_of_integer?` say that none
of these steps changes the number; `make_of_integer` puts them together for the test of a stored
value, `integers_compared_exactly` for a compiled condition.
-/

namespace RecordRules

/-! ## Whole numbers in constants and stored values -/

/-- A text of a whole number of 64 bits, with or without a sign bit. -/
def IsIntegerText (s : String) (x : Int) : Prop :=
  Spells s.toList x ∧ Number.InRange x

instance (s : String) (x : Int) : Decidable (IsIntegerText s x) :=
  inferInstanceAs (Decidable (_ ∧ _))

/-- A constant that is a whole number, or a text of one. -/
def Scalar.IsInteger : Scalar → Int → Prop
  | .number n, x => n.integer? = some x
  | .text s, x => IsIntegerText s x
  | .bool _, _ => False

theorem read?_of_isIntegerText {s : String} {x : Int} (h : IsIntegerText s x) :
    ∃ n, Number.read? s.toList = some n ∧ n.integer? = some x := by
  obtain ⟨n, hn, hx⟩ := Number.exists_ofInt?_eq h.2
  exact ⟨n, (Number.read?_of_spells h.1 h.2).trans hn, hx⟩

theorem Scalar.IsInteger.text {s : Scalar} {x : Int} (h : s.IsInteger x) :
    IsIntegerText (String.ofList s.rendered) x := by
  rw [IsIntegerText, String.toList_ofList]
  cases s with
  | number n => exact ⟨Number.spells_text h, Number.inRange_of_integer? h⟩
  | text s => exact h
  | bool b => exact absurd h id

/-! ## Orders of whole numbers -/

namespace Operator

/-- What an order says of a value and a bound. -/
def Orders : Operator → Int → Int → Prop
  | .gt, x, y => x > y
  | .lt, x, y => x < y
  | .gte, x, y => x ≥ y
  | .lte, x, y => x ≤ y
  | _, _, _ => False

instance (op : Operator) (x y : Int) : Decidable (op.Orders x y) := by
  cases op <;> simp only [Orders] <;> infer_instance

theorem holds_compare {op : Operator} (ho : op.isOrdering = true) (x y : Int) :
    op.holds (compare x y) = decide (op.Orders x y) := by
  rw [Bool.eq_iff_iff, holds_iff, decide_eq_true_iff]
  cases op with
  | gt => exact Std.compare_eq_gt
  | lt => exact Std.compare_eq_lt
  | gte => exact (not_congr Std.compare_eq_lt).trans Int.not_lt
  | lte => exact (not_congr Std.compare_eq_gt).trans Int.not_lt
  | _ => cases ho

end Operator

/-! ## Tests of stored values -/

theorem AttributeTest.make_of_integer {op : Operator} (ho : op.isOrdering = true) (key : String)
    {s : Scalar} {y : Int} (hs : s.IsInteger y) :
    ∃ test, make key op (.single s) = .ok test ∧
      ∀ v x, IsIntegerText v x → test.evaluate v = .ok (decide (op.Orders x y)) := by
  obtain ⟨bound, hbound, hy⟩ := read?_of_isIntegerText hs.text
  rw [String.toList_ofList] at hbound
  refine ⟨.order op bound, by rw [make_of_ordering ho, hbound], ?_⟩
  intro v x hv
  obtain ⟨n, hn, hx⟩ := read?_of_isIntegerText hv
  have horder : n.order? bound = some (compare x y) := Number.order?_of_integer? hx hy
  simp only [evaluate, hn, horder, Operator.holds_compare ho]

section Conditions

variable {α : Type} {conventions : Conventions} {t : EntityType α} {a : α} {key : String}

/-- A test that answers every whole number by a property asks whether some stored one has it. -/
theorem EntityTest.evaluate_linked_of_integers {test : AttributeTest} {P : Int → Prop}
    [DecidablePred P] (h : ∀ v x, IsIntegerText v x → test.evaluate v = .ok (decide (P x)))
    {xs : List Int} (hvs : List.Forall₂ IsIntegerText (t.valuesOf a key) xs) :
    (EntityTest.linked key test).evaluate t a = .ok (decide (∃ x ∈ xs, P x)) := by
  have hmap : (t.valuesOf a key).map test.evaluate = xs.map fun x => .ok (decide (P x)) := by
    rw [map_eq_map_iff_forall₂]
    exact hvs.imp h
  have hany : xs.any (fun x => decide (P x)) = decide (∃ x ∈ xs, P x) := by
    rw [Bool.eq_iff_iff]
    simp
  rw [evaluate_linked, hmap, untilDecided_true_of_ok, hany]

theorem Entities.compile_alone {c : Condition} {test : EntityTest}
    (hc : c.operator.isLogical = false) (h : leaf conventions t c = .ok test) :
    compile conventions t (.node .and [c] []) = .ok ⟨t.name, test.evaluate t⟩ := by
  have hop : Operator.and.isLogical = true := rfl
  simp only [compile, Rule.formula, hop, Rule.conditionTests, hc, h, Rule.formulas,
    List.append_nil, Formula.combine, if_true, Bool.false_eq_true, if_false]
  rfl

end Conditions

/-- **Whole numbers are compared exactly.** Signed and unsigned numbers stand in the order of the
whole numbers that they are. A condition that asks for an order under an attribute key, with a whole
number of 64 bits or a text of one as its bound, compiles; and where the values stored under the key
are texts of such numbers, its answer is what the whole numbers say. -/
theorem integers_compared_exactly :
    (∀ {a b : Number} {x y : Int}, a.integer? = some x → b.integer? = some y →
      a.order? b = some (compare x y)) ∧
    ∀ {α : Type} {conventions : Conventions} (t : EntityType α) {field key : String} {op : Operator}
      {s : Scalar} {y : Int}, Routed conventions.attributeLead field key →
      Text.allBlank key.toList = false → op.isOrdering = true → s.IsInteger y →
      ∃ p, Entities.compile conventions t (.node .and [⟨field, op, .single s⟩] []) = .ok p ∧
        ∀ a xs, List.Forall₂ IsIntegerText (t.valuesOf a key) xs →
          p.evaluate a = .ok (decide (∃ x ∈ xs, op.Orders x y)) := by
  refine ⟨Number.order?_of_integer?, ?_⟩
  intro α conventions t field key op s y hroute hkey ho hs
  obtain ⟨test, hmake, htest⟩ := AttributeTest.make_of_integer ho key hs
  have hleaf : Entities.leaf conventions t ⟨field, op, .single s⟩ = .ok (.linked key test) := by
    rw [Entities.leaf_of_routed hroute, Entities.linkedLeaf_eq, hkey, hmake]
    rfl
  have hlogical : op.isLogical = false := by
    cases op <;> first | rfl | cases ho
  refine ⟨_, Entities.compile_alone hlogical hleaf, ?_⟩
  intro a xs hvs
  exact EntityTest.evaluate_linked_of_integers htest hvs

/-- The smallest signed number, and the first one that needs the other representation. -/
def outermostLevels : List (List StoredAttribute) :=
  [[⟨"level", " -9223372036854775808"⟩, ⟨"rank", "none"⟩], [⟨"level", "+009223372036854775808 "⟩]]

theorem integers_compared_exactly_outermostLevels :
    (Number.unsigned 0xFFFFFFFFFFFFFFFF).order? (.signed (-1)) = some .gt ∧
    Routed Conventions.standard.attributeLead "metadata.level" "level" ∧
    (Scalar.text "9223372036854775807").IsInteger 9223372036854775807 ∧
    List.Forall₂ IsIntegerText (badged.valuesOf outermostLevels "level")
      [-9223372036854775808, 9223372036854775808] ∧
    ∃ p, Entities.compile .standard badged
        (.node .and [⟨"metadata.level", .gt, .single (.text "9223372036854775807")⟩] []) = .ok p ∧
      p.evaluate outermostLevels = .ok true := by
  obtain ⟨horder, hcompile⟩ := integers_compared_exactly
  have hroute : Routed Conventions.standard.attributeLead "metadata.level" "level" :=
    ⟨by decide, rfl⟩
  have hgt : Operator.gt.isOrdering = true := rfl
  have hbound : (Scalar.text "9223372036854775807").IsInteger 9223372036854775807 := by
    show IsIntegerText _ _
    decide
  have hlevels : List.Forall₂ IsIntegerText (badged.valuesOf outermostLevels "level")
      [-9223372036854775808, 9223372036854775808] :=
    .cons (by decide) (.cons (by decide) .nil)
  have hmixed : (Number.unsigned 0xFFFFFFFFFFFFFFFF).order? (.signed (-1)) =
      some (compare (18446744073709551615 : Int) (-1)) := horder rfl rfl
  obtain ⟨p, hp, hanswer⟩ := hcompile badged hroute (by decide) hgt hbound
  exact ⟨hmixed, hroute, hbound, hlevels, p, hp, hanswer _ _ hlevels⟩

end RecordRules
