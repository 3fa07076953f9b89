import RecordRules.Proofs.Compile.Target

/-!
# RecordRules.Proofs.Compile.Duality

Negations pushed inwards. The negation of a rule is the negations of its expressions, joined under
the other of the two operators that take any number of them. The two trees differ in shape, and yet
they are the same in all that compiling looks at and in all that a record gives, failures included:

* `run_checks_negation`, `run_checks_distributed`: both pass the checks of the rule itself, since
  every negation that was added has one expression.
* `outcome_negation`, `outcome_distributed`: both give the opposite of the rule, and fail where it
  does.

Where there is no expression, one of them never holds and the other always does
(`outcome_of_expressions_eq_nil`).
-/

namespace RecordRules

namespace Operator

/-- Conjunction and disjunction change places. -/
def dual : Operator → Operator
  | .and => .or
  | .or => .and
  | op => op

theorem dual_joins {op : Operator} (hop : op = .and ∨ op = .or) :
    op.dual = .and ∨ op.dual = .or := by
  rcases hop with rfl | rfl
  · exact .inr rfl
  · exact .inl rfl

end Operator

def Rule.negation (r : Rule) : Rule :=
  .node .not [] [r]

def Expression.negation : Expression → Rule
  | .condition c => .node .not [c] []
  | .rule r => r.negation

/-- The negations of all expressions of a rule, in order, under the dual operator. -/
def Rule.distributed (r : Rule) : Rule :=
  .node r.operator.dual [] (r.expressions.map Expression.negation)

/-! ## Answers -/

section Results

variable {ε : Type}

theorem untilDecided_map_not (d : Bool) (xs : List (Except ε Bool)) :
    untilDecided (!d) (xs.map (Except.map (!·))) = (untilDecided d xs).map (!·) := by
  induction xs with
  | nil => rfl
  | cons x xs ih =>
    cases x with
    | error e => rfl
    | ok b =>
      by_cases hb : b = d
      · simp [untilDecided, Except.map, hb]
      · simpa [untilDecided, Except.map, hb] using ih

theorem joined_dual {op : Operator} (hop : op = .and ∨ op = .or) {xs : List (Except ε Bool)}
    (hne : xs ≠ []) : joined op.dual (xs.map (Except.map (!·))) = (joined op xs).map (!·) := by
  rcases hop with rfl | rfl
  · show joined .or _ = (untilDecided false xs).map _
    rw [joined_or_of_ne_nil (by simpa using hne)]
    exact untilDecided_map_not false xs
  · rw [joined_or_of_ne_nil hne]
    exact untilDecided_map_not true xs

end Results

namespace Rule

variable {ε : Type} {value : Condition → Except ε Bool} {r : Rule}

theorem outcome_negation (r : Rule) : r.negation.outcome value = (r.outcome value).map (!·) :=
  joined_not_singleton _

theorem outcome_expression_negation (x : Expression) :
    x.negation.outcome value = (x.outcome value).map (!·) := by
  cases x with
  | condition c => exact joined_not_singleton _
  | rule r => exact r.outcome_negation

theorem outcome_distributed (hop : r.operator = .and ∨ r.operator = .or)
    (hne : r.expressions ≠ []) : r.distributed.outcome value = (r.outcome value).map (!·) := by
  have hparts : (r.expressions.map Expression.negation).map (outcome value) =
      (r.expressions.map (Expression.outcome value)).map (Except.map (!·)) := by
    rw [List.map_map, List.map_map]
    exact List.map_congr_left fun x _ => outcome_expression_negation x
  rw [distributed, outcome, outcomes_eq, List.map_nil, List.nil_append, hparts,
    joined_dual hop (by simpa using hne), ← outcome_eq]

/-- Both operators hold of nothing, so there the negation and the negations part ways. -/
theorem outcome_of_expressions_eq_nil (hop : r.operator = .and ∨ r.operator = .or)
    (h : r.expressions = []) :
    r.negation.outcome value = .ok false ∧ r.distributed.outcome value = .ok true := by
  rw [outcome_negation, outcome_eq, distributed, h]
  rcases hop with h | h
  · rw [h]
    exact ⟨rfl, rfl⟩
  · rw [h]
    exact ⟨rfl, rfl⟩

/-! ## Checks -/

theorem valid_negation (hv : r.Valid) : r.negation.Valid :=
  .node rfl (by simp) (by simpa using hv)

theorem valid_distributed (hv : r.Valid) (hop : r.operator = .and ∨ r.operator = .or) :
    r.distributed.Valid := by
  have hparts : ∀ x ∈ r.expressions, x.negation.Valid := by
    obtain ⟨op, cs, rs⟩ := r
    cases hv with
    | node combines conditions_valid nested_valid =>
      refine forall_mem_expressions.mpr ⟨fun c hc => ?_, fun n hn => ?_⟩
      · exact .node rfl (by simpa using conditions_valid c hc) (by simp)
      · exact valid_negation (nested_valid n hn)
  refine .node ?_ (by simp) (List.forall_mem_map.mpr hparts)
  rcases Operator.dual_joins hop with h | h
  · rw [h]
    rfl
  · rw [h]
    rfl

end Rule

/-- What is checked in one expression of a rule. -/
def Expression.checks : Expression → List Check
  | .condition c => [.condition c]
  | .rule r => r.checks

namespace Rule

variable {r : Rule}

theorem checks_eq_flatMap (r : Rule) :
    r.checks = r.expressions.flatMap Expression.checks ++ r.arityCheck := by
  rw [checks_eq, expressions, List.flatMap_append, List.flatMap_map, List.flatMap_map,
    List.append_assoc, List.map_eq_flatMap]
  rfl

theorem checks_expression_negation (x : Expression) :
    x.negation.checks = x.checks ++ [.negation 1] := by
  cases x with
  | condition c => rfl
  | rule r =>
    rw [Expression.negation, checks_eq_flatMap]
    exact congrArg (· ++ _) (List.flatMap_singleton _ _)

theorem arityCheck_eq_nil (hop : r.operator = .and ∨ r.operator = .or) : r.arityCheck = [] := by
  rw [arityCheck, if_neg]
  rcases hop with h | h
  · rw [h]
    decide
  · rw [h]
    decide

theorem checks_distributed (hop : r.operator = .and ∨ r.operator = .or) :
    r.distributed.checks = r.expressions.flatMap fun x => x.checks ++ [.negation 1] := by
  have hparts : (r.expressions.map Expression.negation).flatMap checks =
      r.expressions.flatMap fun x => x.checks ++ [.negation 1] := by
    rw [List.flatMap_map]
    exact List.flatMap_congr fun x _ => checks_expression_negation x
  have harity : r.distributed.arityCheck = [] := arityCheck_eq_nil (Operator.dual_joins hop)
  rw [checks_eq, harity, List.append_nil, ← hparts]
  rfl

end Rule

theorem runAll_flatMap_congr {ι κ ε : Type} {f : ι → Except ε Unit} {g g' : κ → List ι}
    {xs : List κ} (h : ∀ x ∈ xs, runAll f (g x) = runAll f (g' x)) :
    runAll f (xs.flatMap g) = runAll f (xs.flatMap g') := by
  induction xs with
  | nil => rfl
  | cons x xs ih =>
    obtain ⟨hx, hxs⟩ := List.forall_mem_cons.mp h
    rw [List.flatMap_cons, List.flatMap_cons, runAll_append, runAll_append, hx, ih hxs]

namespace Target

variable {α L : Type} (T : Target α L) {r : Rule}

theorem run_checks_append_negation (ks : List Check) :
    runAll T.check (ks ++ [.negation 1]) = runAll T.check ks := by
  rw [runAll_append, runAll_singleton]
  cases runAll T.check ks <;> rfl

theorem run_checks_negation (r : Rule) :
    runAll T.check r.negation.checks = runAll T.check r.checks := by
  have hchecks : r.negation.checks = r.checks ++ [.negation 1] :=
    Rule.checks_expression_negation (.rule r)
  rw [hchecks, T.run_checks_append_negation]

theorem run_checks_distributed (hop : r.operator = .and ∨ r.operator = .or) :
    runAll T.check r.distributed.checks = runAll T.check r.checks := by
  rw [Rule.checks_distributed hop, Rule.checks_eq_flatMap r, Rule.arityCheck_eq_nil hop,
    List.append_nil]
  exact runAll_flatMap_congr fun x _ => T.run_checks_append_negation x.checks

theorem compile_negation (hv : r.Valid) (hop : r.operator = .and ∨ r.operator = .or)
    (hne : r.expressions ≠ []) : T.compile r.negation = T.compile r.distributed := by
  rw [T.compile_eq (Rule.valid_negation hv), T.compile_eq (Rule.valid_distributed hv hop),
    T.run_checks_negation, T.run_checks_distributed hop]
  simp only [Rule.outcome_negation, Rule.outcome_distributed hop hne]

end Target

/-- **Negations distribute over what they negate.** A conjunction or disjunction of at least one
expression is negated by negating its expressions under the other operator: both rules compile to
the same fault, or to predicates that give every record the same answer or the same failure. -/
theorem compile_negation_eq_distributed {r : Rule} (hv : r.Valid)
    (hop : r.operator = .and ∨ r.operator = .or) (hne : r.expressions ≠ []) :
    (∀ {α : Type} (t : RecordType α),
      Flat.compile t r.negation = Flat.compile t r.distributed) ∧
    (∀ {α : Type} (conventions : Conventions) (t : EntityType α),
      Entities.compile conventions t r.negation =
        Entities.compile conventions t r.distributed) ∧
    (∀ {α β : Type} (conventions : Conventions) (t : AttributeType α β),
      Owned.compile conventions t r.negation = Owned.compile conventions t r.distributed) := by
  refine ⟨fun t => ?_, fun conventions t => ?_, fun conventions t => ?_⟩
  · rw [Flat.compile_eq_target, Flat.compile_eq_target, Target.compile_negation _ hv hop hne]
  · rw [Entities.compile_eq_target, Entities.compile_eq_target,
      Target.compile_negation _ hv hop hne]
  · rw [Owned.compile_eq_target, Owned.compile_eq_target, Target.compile_negation _ hv hop hne]

/-- A field, a search among attributes, and behind them a disjunction. -/
def deskRule : Rule :=
  .node .and [⟨"city", .eq, .single (.text "Oslo")⟩,
      ⟨"metadata.level", .gt, .single (.number (.signed 5))⟩]
    [.node .or [⟨"age", .lt, .single (.number (.signed 18))⟩] []]

/-- Entities of one level, which is no number. -/
def desks : EntityType Row :=
  { Row.type "desk" [⟨"city", .text⟩, ⟨"age", .number⟩] with
    links := fun _ => [[⟨"level", "high"⟩]] }

theorem compile_negation_eq_distributed_deskRule :
    deskRule.Valid ∧ deskRule.operator = .and ∧ deskRule.expressions ≠ [] ∧
      (∃ p, Entities.compile .standard desks deskRule.negation = .ok p ∧
        Entities.compile .standard desks deskRule.distributed = .ok p ∧
        p.evaluate [("city", .text "Oslo")] = .error (.numericParse "high") ∧
        p.evaluate [("city", .text "Rome")] = .ok true) ∧
      Flat.compile desks.toRecordType deskRule.distributed =
        .error (.unknownField "metadata.level" "desk") := by
  have hv : deskRule.Valid := by decide
  have hne : deskRule.expressions ≠ [] := List.cons_ne_nil _ _
  obtain ⟨hflat, hentities, -⟩ := compile_negation_eq_distributed hv (.inl rfl) hne
  exact ⟨hv, rfl, hne, ⟨_, rfl, (hentities .standard desks).symm.trans rfl, rfl, rfl⟩,
    (hflat desks.toRecordType).symm.trans rfl⟩

end RecordRules
