import RecordRules.Proofs.Rule.Subrules

/-!
# RecordRules.Proofs.Rule.Outcome

The answer of a rule, given the answer of each condition, which may be a failure.

* `untilDecided` reads a list of answers from left to right, up to the first that decides the rest
  or fails. Reading in parts is reading the whole (`untilDecided_flatMap`).
* `Rule.outcome` joins the answers of the expressions of a rule, its conditions and then its nested
  rules, under its operator (`outcome_eq`).
-/

namespace RecordRules

section Results

variable {ε : Type}

/-- Answers from left to right, up to the first that is `decisive` or a failure. -/
def untilDecided (decisive : Bool) : List (Except ε Bool) → Except ε Bool
  | [] => .ok (!decisive)
  | .error e :: _ => .error e
  | .ok b :: xs => if b = decisive then .ok decisive else untilDecided decisive xs

theorem untilDecided_singleton (d : Bool) (x : Except ε Bool) : untilDecided d [x] = x := by
  cases x with
  | error e => rfl
  | ok b => cases b <;> cases d <;> rfl

theorem untilDecided_append (d : Bool) (xs ys : List (Except ε Bool)) :
    untilDecided d (xs ++ ys) = untilDecided d (untilDecided d xs :: ys) := by
  induction xs with
  | nil =>
    show untilDecided d ys = untilDecided d (.ok (!d) :: ys)
    cases d <;> rfl
  | cons x xs ih =>
    cases x with
    | error e => rfl
    | ok b =>
      simp only [List.cons_append, untilDecided]
      split
      · simp [untilDecided]
      · exact ih

/-- What is read in parts, each of them up to where it is decided, comes to the same. -/
theorem untilDecided_flatMap {ι : Type} (d : Bool) (f : ι → List (Except ε Bool)) (is : List ι) :
    untilDecided d (is.flatMap f) = untilDecided d (is.map fun i => untilDecided d (f i)) := by
  induction is with
  | nil => rfl
  | cons i is ih =>
    rw [List.flatMap_cons, untilDecided_append, List.map_cons]
    cases untilDecided d (f i) with
    | error e => rfl
    | ok b => simp only [untilDecided, ih]

/-- An answer is the decisive one of some member, or it is the other one and so is every
member's. -/
theorem untilDecided_eq_ok {d b : Bool} {xs : List (Except ε Bool)}
    (h : untilDecided d xs = .ok b) :
    (b = d ∧ .ok d ∈ xs) ∨ (b = !d ∧ ∀ x ∈ xs, x = .ok (!d)) := by
  induction xs with
  | nil =>
    cases h
    exact .inr ⟨rfl, fun x hx => absurd hx List.not_mem_nil⟩
  | cons x xs ih =>
    cases x with
    | error e => cases h
    | ok c =>
      simp only [untilDecided] at h
      split at h
      · rename_i hc
        cases h
        exact .inl ⟨rfl, by simp [hc]⟩
      · rename_i hc
        have hc' : c = !d := by
          revert hc
          cases c <;> cases d <;> simp
        rcases ih h with ⟨hb, hm⟩ | ⟨hb, hall⟩
        · exact .inl ⟨hb, List.mem_cons_of_mem _ hm⟩
        · refine .inr ⟨hb, fun y hy => ?_⟩
          rcases List.mem_cons.mp hy with rfl | hy
          · rw [hc']
          · exact hall y hy

theorem untilDecided_isOk {d : Bool} {xs : List (Except ε Bool)} (h : ∀ x ∈ xs, ∃ b, x = .ok b) :
    ∃ b, untilDecided d xs = .ok b := by
  induction xs with
  | nil => exact ⟨_, rfl⟩
  | cons x xs ih =>
    obtain ⟨⟨b, rfl⟩, hxs⟩ := List.forall_mem_cons.mp h
    rw [untilDecided]
    split
    · exact ⟨_, rfl⟩
    · exact ih hxs

section Answered

variable {ι : Type} {b : ι → Bool} {is : List ι}

theorem untilDecided_true_of_ok :
    untilDecided true (is.map fun i => (.ok (b i) : Except ε Bool)) = .ok (is.any b) := by
  induction is with
  | nil => rfl
  | cons i is ih => cases hi : b i <;> simp [untilDecided, hi, ih]

theorem untilDecided_false_of_ok :
    untilDecided false (is.map fun i => (.ok (b i) : Except ε Bool)) = .ok (is.all b) := by
  induction is with
  | nil => rfl
  | cons i is ih => cases hi : b i <;> simp [untilDecided, hi, ih]

end Answered

/-- Answers joined under a combining operator. -/
def joined (op : Operator) (xs : List (Except ε Bool)) : Except ε Bool :=
  match op with
  | .or => if xs.isEmpty then .ok true else untilDecided true xs
  | .not => (untilDecided true xs).map (!·)
  | _ => untilDecided false xs

theorem joined_or_of_ne_nil {xs : List (Except ε Bool)} (h : xs ≠ []) :
    joined .or xs = untilDecided true xs := by
  rw [joined, if_neg (by simpa using h)]

theorem joined_isOk {op : Operator} {xs : List (Except ε Bool)} (h : ∀ x ∈ xs, ∃ b, x = .ok b) :
    ∃ b, joined op xs = .ok b := by
  obtain ⟨b, hb⟩ : ∃ b, untilDecided true xs = .ok b := untilDecided_isOk h
  rw [joined.eq_def]
  split
  · split
    · exact ⟨true, rfl⟩
    · exact ⟨b, hb⟩
  · exact ⟨!b, by rw [hb]; rfl⟩
  · exact untilDecided_isOk h

theorem joined_not_singleton (x : Except ε Bool) : joined .not [x] = x.map (!·) := by
  rw [joined, untilDecided_singleton]

end Results

/-- What a rule combines: conditions and rules. -/
inductive Expression where
  | condition (c : Condition)
  | rule (r : Rule)

namespace Rule

variable {ε : Type}

def expressions (r : Rule) : List Expression :=
  r.conditions.map .condition ++ r.nested.map .rule

theorem length_expressions (r : Rule) : r.expressions.length = r.arity := by
  rw [expressions, List.length_append, List.length_map, List.length_map, arity]

theorem forall_mem_expressions {r : Rule} {P : Expression → Prop} :
    (∀ x ∈ r.expressions, P x) ↔
      (∀ c ∈ r.conditions, P (.condition c)) ∧ ∀ n ∈ r.nested, P (.rule n) := by
  rw [expressions, List.forall_mem_append, List.forall_mem_map, List.forall_mem_map]

mutual

/-- The answer of a rule, given the answer of each condition. -/
def outcome (value : Condition → Except ε Bool) : Rule → Except ε Bool
  | .node op cs rs => joined op (cs.map value ++ outcomes value rs)

def outcomes (value : Condition → Except ε Bool) : List Rule → List (Except ε Bool)
  | [] => []
  | r :: rs => outcome value r :: outcomes value rs

end

theorem outcomes_eq (value : Condition → Except ε Bool) (rs : List Rule) :
    outcomes value rs = rs.map (outcome value) := by
  induction rs with
  | nil => rfl
  | cons r rs ih => rw [outcomes, ih, List.map_cons]

end Rule

namespace Expression

variable {ε : Type}

def outcome (value : Condition → Except ε Bool) : Expression → Except ε Bool
  | .condition c => value c
  | .rule r => r.outcome value

end Expression

namespace Rule

variable {ε : Type}

theorem outcome_eq (value : Condition → Except ε Bool) (r : Rule) :
    r.outcome value = joined r.operator (r.expressions.map (Expression.outcome value)) := by
  cases r with
  | node op cs rs =>
    rw [outcome, outcomes_eq, expressions, List.map_append, List.map_map, List.map_map]
    rfl

theorem outcome_mapConditions (g : Condition → Condition) (value : Condition → Except ε Bool)
    (r : Rule) : (r.mapConditions g).outcome value = r.outcome fun c => value (g c) := by
  induction r with
  | node op cs rs ih =>
    have hrs : (rs.map (mapConditions g)).map (outcome value) =
        rs.map (outcome fun c => value (g c)) := by
      rw [List.map_map]
      exact List.map_congr_left ih
    rw [mapConditions, mapConditionsAll_eq, outcome, outcomes_eq, hrs, outcome, outcomes_eq,
      List.map_map]
    rfl

/-- Only the answers of the conditions in a rule matter to it. -/
theorem outcome_congr {value value' : Condition → Except ε Bool} {r : Rule}
    (h : ∀ d ∈ r.subrules, ∀ c ∈ d.conditions, value c = value' c) :
    r.outcome value = r.outcome value' := by
  induction r with
  | node op cs rs ih =>
    rw [subrules_eq, List.forall_mem_cons, descendants, List.forall_mem_flatMap] at h
    have hcs : cs.map value = cs.map value' := List.map_congr_left h.1
    have hrs : rs.map (outcome value) = rs.map (outcome value') :=
      List.map_congr_left fun n hn => ih n hn (h.2 n hn)
    rw [outcome, outcome, outcomes_eq, outcomes_eq, hcs, hrs]

end Rule
end RecordRules
