import RecordRules.Error
import RecordRules.Proofs.Lists
import RecordRules.Proofs.Rule.Outcome

/-!
# RecordRules.Proofs.Rule.Checks

What compiling looks at in a rule, in the order in which it looks.

* `Rule.checks` lists the conditions of a rule, then what its nested rules list one after the other,
  then, for a negation, the number of its expressions.
* `forall_mem_checks` says of every rule in a rule what holds of every check.
* `Rule.FirstFault` picks the first check at fault, with its error; `Rule.Accepted` says that there
  is none.
-/

namespace RecordRules

section Results

variable {α ι ε : Type}

/-- Whether a result is a failure, and which. -/
def verdict : Except ε α → Except ε Unit
  | .error e => .error e
  | .ok _ => .ok ()

theorem verdict_eq_error_iff {x : Except ε α} {e : ε} : verdict x = .error e ↔ x = .error e := by
  cases x <;> simp [verdict]

theorem verdict_eq_ok_iff {x : Except ε α} : verdict x = .ok () ↔ ∃ a, x = .ok a := by
  cases x <;> simp [verdict]

theorem verdict_map {β : Type} {f : α → β} {x : Except ε α} : verdict (x.map f) = verdict x := by
  cases x <;> rfl

theorem exists_of_map_eq_ok {β : Type} {f : α → β} {x : Except ε α} {b : β} (h : x.map f = .ok b) :
    ∃ a, x = .ok a ∧ f a = b := by
  cases x with
  | error e => cases h
  | ok a => exact ⟨a, rfl, Except.ok.inj h⟩

/-- Checks in order, up to the first that fails. -/
def runAll (f : ι → Except ε Unit) : List ι → Except ε Unit
  | [] => .ok ()
  | x :: xs =>
    match f x with
    | .error e => .error e
    | .ok () => runAll f xs

variable {f : ι → Except ε Unit}

theorem runAll_singleton (x : ι) : runAll f [x] = f x := by
  rw [runAll]
  cases f x <;> rfl

theorem runAll_append (xs ys : List ι) :
    runAll f (xs ++ ys) =
      match runAll f xs with
      | .error e => .error e
      | .ok () => runAll f ys := by
  induction xs with
  | nil => rfl
  | cons x xs ih =>
    simp only [List.cons_append, runAll]
    cases f x with
    | error e => rfl
    | ok u => exact ih

theorem runAll_map {κ : Type} (g : κ → ι) (xs : List κ) :
    runAll f (xs.map g) = runAll (fun x => f (g x)) xs := by
  induction xs with
  | nil => rfl
  | cons x xs ih => simp only [List.map_cons, runAll, ih]

theorem runAll_congr {f f' : ι → Except ε Unit} {xs : List ι} (h : ∀ x ∈ xs, f x = f' x) :
    runAll f xs = runAll f' xs := by
  induction xs with
  | nil => rfl
  | cons x xs ih =>
    obtain ⟨hx, hxs⟩ := List.forall_mem_cons.mp h
    rw [runAll, runAll, hx, ih hxs]

theorem runAll_eq_ok_iff {xs : List ι} : runAll f xs = .ok () ↔ ∀ x ∈ xs, f x = .ok () := by
  induction xs with
  | nil => simp [runAll]
  | cons x xs ih =>
    rw [List.forall_mem_cons, ← ih, runAll]
    cases f x with
    | error e => simp
    | ok u => simp

/-- A run of checks fails with the error of the first that fails. -/
theorem runAll_eq_error_iff {xs : List ι} {e : ε} :
    runAll f xs = .error e ↔ ∃ before x after, xs = before ++ x :: after ∧
      (∀ y ∈ before, f y = .ok ()) ∧ f x = .error e := by
  induction xs with
  | nil => simp [runAll]
  | cons x xs ih =>
    rw [exists_split_cons]
    cases hx : f x with
    | error e' => simp [runAll, hx]
    | ok u => simp [runAll, hx, ih]

end Results

inductive Check where
  | condition (c : Condition)
  | negation (expressions : Nat)

namespace Check

/-- How a check can fail, given how conditions can. A negation takes one expression. -/
def Fault (fault : Condition → RuleError → Prop) : Check → RuleError → Prop
  | .condition c, e => fault c e
  | .negation n, e => n ≠ 1 ∧ e = .invalidArity .not 1 n

def run (leaf : Condition → Except RuleError Unit) : Check → Except RuleError Unit
  | .condition c => leaf c
  | .negation n => if n = 1 then .ok () else .error (.invalidArity .not 1 n)

def mapCondition (g : Condition → Condition) : Check → Check
  | .condition c => .condition (g c)
  | .negation n => .negation n

theorem run_mapCondition (leaf : Condition → Except RuleError Unit) (g : Condition → Condition)
    (k : Check) : run leaf (k.mapCondition g) = run (fun c => leaf (g c)) k := by
  cases k <;> rfl

end Check

namespace Rule

/-- The number of expressions matters where they are negated. -/
def arityCheck (r : Rule) : List Check :=
  if r.operator = .not then [.negation r.arity] else []

mutual

/-- Conditions in order, nested rules in order, then the number of both. -/
def checks : Rule → List Check
  | .node op cs rs => cs.map .condition ++ (checksOfAll rs ++ arityCheck (.node op cs rs))

def checksOfAll : List Rule → List Check
  | [] => []
  | r :: rs => checks r ++ checksOfAll rs

end

theorem checksOfAll_eq (rs : List Rule) : checksOfAll rs = rs.flatMap checks := by
  induction rs with
  | nil => rfl
  | cons r rs ih => rw [checksOfAll, ih, List.flatMap_cons]

theorem checks_eq (r : Rule) :
    r.checks = r.conditions.map .condition ++ (r.nested.flatMap checks ++ r.arityCheck) := by
  cases r with
  | node op cs rs => rw [checks, checksOfAll_eq]; rfl

theorem forall_mem_arityCheck {r : Rule} {P : Check → Prop} :
    (∀ k ∈ r.arityCheck, P k) ↔ (r.operator = .not → P (.negation r.arity)) := by
  rw [arityCheck]
  split
  · rename_i h
    simp [h]
  · rename_i h
    simp [h]

/-- What is checked is the conditions of every rule in the rule, and the arity of the negations
among them. -/
theorem forall_mem_checks {r : Rule} {P : Check → Prop} :
    (∀ k ∈ r.checks, P k) ↔ ∀ d ∈ r.subrules,
      (∀ c ∈ d.conditions, P (.condition c)) ∧ (d.operator = .not → P (.negation d.arity)) := by
  induction r with
  | node op cs rs ih =>
    have hrs : (∀ n ∈ rs, ∀ k ∈ n.checks, P k) ↔ ∀ n ∈ rs, ∀ d ∈ n.subrules,
        (∀ c ∈ d.conditions, P (.condition c)) ∧ (d.operator = .not → P (.negation d.arity)) :=
      forall₂_congr ih
    rw [checks_eq, subrules_eq, List.forall_mem_append, List.forall_mem_append,
      List.forall_mem_map, List.forall_mem_flatMap, forall_mem_arityCheck, List.forall_mem_cons,
      descendants, List.forall_mem_flatMap]
    show (_ ∧ (∀ n ∈ rs, ∀ k ∈ n.checks, P k) ∧ _) ↔ _ ∧ ∀ n ∈ rs, _
    rw [hrs]
    constructor
    · rintro ⟨hc, hn, ha⟩
      exact ⟨⟨hc, ha⟩, hn⟩
    · rintro ⟨⟨hc, ha⟩, hn⟩
      exact ⟨hc, hn, ha⟩

theorem arity_mapConditions (g : Condition → Condition) (r : Rule) :
    (r.mapConditions g).arity = r.arity := by
  rw [arity, conditions_mapConditions, nested_mapConditions, List.length_map, List.length_map,
    arity]

theorem checks_mapConditions (g : Condition → Condition) (r : Rule) :
    (r.mapConditions g).checks = r.checks.map (Check.mapCondition g) := by
  induction r with
  | node op cs rs ih =>
    have hrs : ((Rule.node op cs rs).nested.map (mapConditions g)).flatMap checks =
        ((Rule.node op cs rs).nested.flatMap checks).map (Check.mapCondition g) := by
      rw [List.flatMap_map, List.map_flatMap]
      exact List.flatMap_congr ih
    have harity : ((Rule.node op cs rs).mapConditions g).arityCheck =
        (Rule.node op cs rs).arityCheck.map (Check.mapCondition g) := by
      rw [arityCheck, arityCheck, operator_mapConditions, arity_mapConditions,
        apply_ite (List.map _)]
      rfl
    rw [checks_eq, conditions_mapConditions, nested_mapConditions, hrs, harity, checks_eq,
      List.map_append, List.map_append, List.map_map, List.map_map]
    rfl

/-- Every condition at every depth is acceptable, and every negation at every depth has exactly one
expression. -/
def Accepted (acceptable : Condition → Prop) (r : Rule) : Prop :=
  ∀ d ∈ r.subrules, (∀ c ∈ d.conditions, acceptable c) ∧ (d.operator = .not → d.arity = 1)

/-- The error of the first check that is at fault, where those before it are not. -/
def FirstFault (fault : Condition → RuleError → Prop) (r : Rule) (e : RuleError) : Prop :=
  ∃ before k after, r.checks = before ++ k :: after ∧
    (∀ k' ∈ before, ∀ e', ¬k'.Fault fault e') ∧ k.Fault fault e

end Rule
end RecordRules
