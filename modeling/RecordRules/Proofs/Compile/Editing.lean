import RecordRules.Proofs.Compile.Meaning
import RecordRules.Proofs.Rule.Place

/-!
# RecordRules.Proofs.Compile.Editing

What one more condition does to the records that a rule selects. A conjunction selects fewer with
it and a disjunction more, except that a disjunction of nothing selects every record and can only
lose some. Deep inside a rule the direction is turned around by each negation above the place
(`Place.holds_fill_of_imp`), so the whole follows the number of negations
(`implies_of_withCondition`).
-/

namespace RecordRules

/-- Every record that matches one predicate matches the other. -/
def Predicate.Implies {α : Type} (p q : Predicate α) : Prop :=
  ∀ a, p.evaluate a = .ok true → q.evaluate a = .ok true

namespace Rule

/-- The rule with a condition behind its own. -/
def withCondition (r : Rule) (c : Condition) : Rule :=
  .node r.operator (r.conditions ++ [c]) r.nested

variable {r : Rule} {c : Condition} {holds : Condition → Prop}

theorem mem_expressions_withCondition {x : Expression} :
    x ∈ (r.withCondition c).expressions ↔ x ∈ r.expressions ∨ x = .condition c := by
  simp only [expressions, withCondition, conditions, nested, List.map_append, List.mem_append,
    List.map_singleton, List.mem_singleton]
  exact or_right_comm

theorem valid_withCondition (hv : r.Valid) (hc : c.Valid) : (r.withCondition c).Valid := by
  cases hv with
  | node combines conditions_valid nested_valid =>
    refine .node combines ?_ nested_valid
    rw [List.forall_mem_append, List.forall_mem_singleton]
    exact ⟨conditions_valid, hc⟩

/-- A conjunction keeps what it demanded, and a disjunction of nothing demanded nothing. -/
theorem holds_of_withCondition
    (h : r.operator = .and ∨ (r.operator = .or ∧ r.expressions = []))
    (hholds : (r.withCondition c).Holds holds) : r.Holds holds := by
  rcases h with hop | ⟨hop, hempty⟩
  · have hop' : (r.withCondition c).operator = .and := hop
    rw [holds_iff_of_and hop'] at hholds
    rw [holds_iff_of_and hop]
    exact fun x hx => hholds x (mem_expressions_withCondition.mpr (.inl hx))
  · rw [holds_iff_of_or hop]
    exact .inl hempty

/-- What satisfied a disjunction by one of its expressions still does. -/
theorem holds_withCondition (hop : r.operator = .or) (hne : r.expressions ≠ [])
    (hholds : r.Holds holds) : (r.withCondition c).Holds holds := by
  have hop' : (r.withCondition c).operator = .or := hop
  rw [holds_iff_of_or hop] at hholds
  rw [holds_iff_of_or hop']
  rcases hholds with hempty | ⟨x, hx, hholds⟩
  · exact absurd hempty hne
  · exact .inr ⟨x, mem_expressions_withCondition.mpr (.inl hx), hholds⟩

end Rule

namespace Flat

variable {α : Type} {t : RecordType α} {r r' : Rule} {p p' : Predicate α}

theorem evaluate_eq_true_iff (hv : r.Valid) (h : compile t r = .ok p) (a : α) :
    p.evaluate a = .ok true ↔ r.Holds (HoldsFor t a) := by
  obtain ⟨b, hb, hholds⟩ := evaluate_answers hv h a
  rw [hb, ← hholds, Except.ok.injEq]

/-- A rule exchanged inside another for one that holds more often. -/
theorem implies_of_fill (place : Place) (hv : (place.fill r).Valid) (hr' : r'.Valid)
    (h : compile t (place.fill r) = .ok p) (h' : compile t (place.fill r') = .ok p')
    (himp : ∀ holds : Condition → Prop, r.Holds holds → r'.Holds holds) :
    (Even place.negations → p.Implies p') ∧ (Odd place.negations → p'.Implies p) := by
  have hv' : (place.fill r').Valid := Place.valid_fill hv hr'
  refine ⟨fun hn a ha => ?_, fun hn a ha => ?_⟩
  · rw [evaluate_eq_true_iff hv h] at ha
    rw [evaluate_eq_true_iff hv' h']
    exact (place.holds_fill_of_imp (himp _)).1 hn ha
  · rw [evaluate_eq_true_iff hv' h'] at ha
    rw [evaluate_eq_true_iff hv h]
    exact (place.holds_fill_of_imp (himp _)).2 hn ha

/-- **What one more condition does to the matches of a rule.** Added to a conjunction anywhere in
the rule, or to a disjunction of nothing, it takes matches away under an even number of negations
and adds some under an odd number. Added to any other disjunction it does the opposite. -/
theorem implies_of_withCondition {place : Place} {c : Condition} (hv : (place.fill r).Valid)
    (hc : c.Valid) (h : compile t (place.fill r) = .ok p)
    (h' : compile t (place.fill (r.withCondition c)) = .ok p') :
    (r.operator = .and ∨ (r.operator = .or ∧ r.expressions = []) →
      (Even place.negations → p'.Implies p) ∧ (Odd place.negations → p.Implies p')) ∧
    (r.operator = .or ∧ r.expressions ≠ [] →
      (Even place.negations → p.Implies p') ∧ (Odd place.negations → p'.Implies p)) := by
  have hr : r.Valid := Place.valid_of_fill hv
  have hr' : (r.withCondition c).Valid := Rule.valid_withCondition hr hc
  refine ⟨fun hop => ?_, fun ⟨hop, hne⟩ => ?_⟩
  · exact implies_of_fill place (Place.valid_fill hv hr') hr h' h
      fun _ => Rule.holds_of_withCondition hop
  · exact implies_of_fill place hv hr' h h' fun _ => Rule.holds_withCondition hop hne

end Flat

/-- Behind a condition of a disjunction, which is negated. -/
def negatedPlace : Place :=
  .within .not [] [] (.within .or [⟨"city", .eq, .single (.text "Oslo")⟩] [] .here []) []

def grownUpRule : Rule :=
  .node .and [⟨"age", .gte, .single (.number (.signed 18))⟩] []

def belowPensionCondition : Condition :=
  ⟨"age", .lt, .single (.number (.signed 67))⟩

def residents : RecordType Row :=
  Row.type "resident" [⟨"city", .text⟩, ⟨"age", .number⟩]

/-- Nobody is lost who matched, and a resident of 70 is won. -/
theorem Flat.implies_of_withCondition_grownUpRule :
    (negatedPlace.fill grownUpRule).Valid ∧ belowPensionCondition.Valid ∧
      negatedPlace.negations = 1 ∧
      ∃ p p', Flat.compile residents (negatedPlace.fill grownUpRule) = .ok p ∧
        Flat.compile residents
          (negatedPlace.fill (grownUpRule.withCondition belowPensionCondition)) = .ok p' ∧
        p.Implies p' ∧ p.evaluate [("age", .number (.signed 70))] = .ok false ∧
        p'.evaluate [("age", .number (.signed 70))] = .ok true := by
  have hv : (negatedPlace.fill grownUpRule).Valid := by decide
  have hc : belowPensionCondition.Valid := by decide
  obtain ⟨hand, -⟩ := Flat.implies_of_withCondition (t := residents) hv hc rfl rfl
  exact ⟨hv, hc, rfl, _, _, rfl, rfl, (hand (.inl rfl)).2 odd_one, rfl, rfl⟩

end RecordRules
