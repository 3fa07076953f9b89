import RecordRules.Compile.Entity
import RecordRules.Compile.Owned
import RecordRules.Proofs.Rule.Checks

/-!
# RecordRules.Proofs.Compile.Target

What the three ways of compiling have in common. A `Target` says how a condition becomes a test and
what a test says of a record; `Flat.compile`, `Entities.compile` and `Owned.compile` are
`Target.compile` for a target each.

* `verdict_formula`: compiling a valid rule fails where the first of its checks fails.
* `evaluate_of_formula`: the formula of a rule has the value of the rule's outcome.
* `Target.compile_eq` puts both together. Later results about compiling rest on it and open neither
  formulas nor the compiler.
-/

namespace RecordRules

namespace Formula

variable {L ε : Type} {value : L → Except ε Bool}

theorem evaluateAll_eq (fs : List (Formula L)) :
    evaluateAll value fs = untilDecided false (fs.map (evaluate value)) := by
  induction fs with
  | nil => rfl
  | cons f fs ih =>
    rw [evaluateAll, List.map_cons]
    cases evaluate value f with
    | error e => rfl
    | ok b =>
      cases b with
      | false => rfl
      | true => exact ih

theorem evaluateAny_eq (fs : List (Formula L)) :
    evaluateAny value fs = untilDecided true (fs.map (evaluate value)) := by
  induction fs with
  | nil => rfl
  | cons f fs ih =>
    rw [evaluateAny, List.map_cons]
    cases evaluate value f with
    | error e => rfl
    | ok b =>
      cases b with
      | false => exact ih
      | true => rfl

/-- Joining formulas joins their values, also where no formula is built for the joint. -/
theorem evaluate_of_combine {op : Operator} {parts : List (Formula L)} {f : Formula L}
    (h : combine op parts = .ok f) :
    evaluate value f = joined op (parts.map (evaluate value)) := by
  cases op with
  | and =>
    cases parts with
    | nil => cases h; rfl
    | cons p ps =>
      cases ps with
      | nil => cases h; exact (untilDecided_singleton false _).symm
      | cons q qs =>
        cases h
        rw [evaluate, evaluateAll_eq]
        rfl
  | or =>
    cases parts with
    | nil => cases h; rfl
    | cons p ps =>
      cases ps with
      | nil => cases h; exact (untilDecided_singleton true _).symm
      | cons q qs =>
        cases h
        rw [evaluate, evaluateAny_eq]
        rfl
  | not =>
    cases parts with
    | nil => cases h
    | cons p ps =>
      cases ps with
      | nil =>
        cases h
        rw [evaluate, joined, List.map_cons, List.map_nil, untilDecided_singleton]
        cases evaluate value p <;> rfl
      | cons q qs => cases h
  | _ => cases h

/-- Joining formulas fails where a negation does not get one. -/
theorem verdict_combine {op : Operator} (hop : op.isLogical = true) (parts : List (Formula L))
    (leaf : Condition → Except RuleError Unit) :
    verdict (combine op parts) =
      runAll (Check.run leaf) (if op = .not then [.negation parts.length] else []) := by
  cases op with
  | and => rcases parts with - | ⟨p, - | ⟨q, qs⟩⟩ <;> rfl
  | or => rcases parts with - | ⟨p, - | ⟨q, qs⟩⟩ <;> rfl
  | not =>
    rw [if_pos rfl, runAll_singleton]
    rcases parts with - | ⟨p, - | ⟨q, qs⟩⟩
    · rfl
    · rfl
    · simp [combine, verdict, Check.run]
  | _ => cases hop

end Formula

namespace Rule

variable {L : Type} {leaf : Condition → Except RuleError L}

/-! ## Faults -/

theorem verdict_conditionTests {cs : List Condition} (h : ∀ c ∈ cs, c.Valid) :
    verdict (conditionTests leaf cs) = runAll (fun c => verdict (leaf c)) cs := by
  induction cs with
  | nil => rfl
  | cons c cs ih =>
    obtain ⟨hc, hcs⟩ := List.forall_mem_cons.mp h
    rw [conditionTests, hc.operator_compares, runAll, ← ih hcs]
    cases leaf c with
    | error e => rfl
    | ok l =>
      cases conditionTests leaf cs <;> simp [verdict]

theorem verdict_formulas {check : Check → Except RuleError Unit} {rs : List Rule}
    (h : ∀ n ∈ rs, verdict (n.formula leaf) = runAll check n.checks) :
    verdict (formulas leaf rs) = runAll check (rs.flatMap checks) := by
  induction rs with
  | nil => rfl
  | cons r rs ih =>
    obtain ⟨hr, hrs⟩ := List.forall_mem_cons.mp h
    rw [formulas, List.flatMap_cons, runAll_append, ← hr, ← ih hrs]
    cases r.formula leaf with
    | error e => rfl
    | ok f => cases formulas leaf rs <;> rfl

theorem length_of_conditionTests {cs : List Condition} {fs : List (Formula L)}
    (h : conditionTests leaf cs = .ok fs) : fs.length = cs.length := by
  induction cs generalizing fs with
  | nil => cases h; rfl
  | cons c cs ih =>
    simp only [conditionTests] at h
    split at h
    · cases h
    · split at h
      · cases h
      · split at h
        · cases h
        · rename_i hfs
          cases h
          rw [List.length_cons, List.length_cons, ih hfs]

theorem length_of_formulas {rs : List Rule} {fs : List (Formula L)}
    (h : formulas leaf rs = .ok fs) : fs.length = rs.length := by
  induction rs generalizing fs with
  | nil => cases h; rfl
  | cons r rs ih =>
    simp only [formulas] at h
    split at h
    · cases h
    · split at h
      · cases h
      · rename_i hfs
        cases h
        rw [List.length_cons, List.length_cons, ih hfs]

/-- Compiling a valid rule runs its checks. -/
theorem verdict_formula {r : Rule} (hv : r.Valid) :
    verdict (r.formula leaf) = runAll (Check.run fun c => verdict (leaf c)) r.checks := by
  induction r with
  | node op cs rs ih =>
    cases hv with
    | node combines conditions_valid nested_valid =>
      have hc : verdict (conditionTests leaf cs) = runAll (fun c => verdict (leaf c)) cs :=
        verdict_conditionTests conditions_valid
      have hn : verdict (formulas leaf rs) =
          runAll (Check.run fun c => verdict (leaf c)) (rs.flatMap checks) :=
        verdict_formulas fun n hn => ih n hn (nested_valid n hn)
      have hcs : runAll (Check.run fun c => verdict (leaf c)) (cs.map .condition) =
          verdict (conditionTests leaf cs) := by
        rw [runAll_map, hc]
        rfl
      rw [formula, if_pos combines, checks, checksOfAll_eq, runAll_append, runAll_append, hcs, ← hn]
      cases htests : conditionTests leaf cs with
      | error e => rfl
      | ok tests =>
        cases hnested : formulas leaf rs with
        | error e => rfl
        | ok nested =>
          have harity : (tests ++ nested).length = (Rule.node op cs rs).arity := by
            rw [List.length_append, length_of_conditionTests htests, length_of_formulas hnested]
            rfl
          show verdict (Formula.combine op (tests ++ nested)) =
            runAll _ (arityCheck (.node op cs rs))
          rw [Formula.verdict_combine combines, harity]
          rfl

/-! ## Values -/

/-- What a condition says, once it is compiled. -/
def tested (leaf : Condition → Except RuleError L) (value : L → Except RuleError Bool)
    (c : Condition) : Except RuleError Bool :=
  match leaf c with
  | .error e => .error e
  | .ok l => value l

variable {value : L → Except RuleError Bool}

theorem values_of_conditionTests {cs : List Condition} {fs : List (Formula L)}
    (h : conditionTests leaf cs = .ok fs) :
    fs.map (Formula.evaluate value) = cs.map (tested leaf value) := by
  induction cs generalizing fs with
  | nil => cases h; rfl
  | cons c cs ih =>
    simp only [conditionTests] at h
    split at h
    · cases h
    · split at h
      · cases h
      · rename_i l hl
        split at h
        · cases h
        · rename_i hfs
          cases h
          rw [List.map_cons, List.map_cons, ih hfs, tested, hl]
          rfl

theorem values_of_formulas {rs : List Rule} {fs : List (Formula L)}
    (ih : ∀ n ∈ rs, ∀ f, n.formula leaf = .ok f → f.evaluate value = n.outcome (tested leaf value))
    (h : formulas leaf rs = .ok fs) :
    fs.map (Formula.evaluate value) = rs.map (outcome (tested leaf value)) := by
  induction rs generalizing fs with
  | nil => cases h; rfl
  | cons r rs ihs =>
    obtain ⟨hr, hrs⟩ := List.forall_mem_cons.mp ih
    simp only [formulas] at h
    split at h
    · cases h
    · rename_i f hf
      split at h
      · cases h
      · rename_i hfs
        cases h
        rw [List.map_cons, List.map_cons, hr f hf, ihs hrs hfs]

theorem evaluate_of_formula {r : Rule} {f : Formula L} (h : r.formula leaf = .ok f) :
    f.evaluate value = r.outcome (tested leaf value) := by
  induction r generalizing f with
  | node op cs rs ih =>
    simp only [formula] at h
    split at h
    · split at h
      · cases h
      · rename_i tests htests
        split at h
        · cases h
        · rename_i nested hnested
          have hn : nested.map (Formula.evaluate value) = rs.map (outcome (tested leaf value)) :=
            values_of_formulas (fun n hn f hf => ih n hn hf) hnested
          rw [Formula.evaluate_of_combine h, List.map_append, values_of_conditionTests htests, hn,
            outcome, outcomes_eq]
    · cases h

end Rule

/-- What rules are compiled for: the test of a condition, and what a test says of a record. -/
structure Target (α L : Type) where
  name : String
  leaf : Condition → Except RuleError L
  holds : α → L → Except RuleError Bool

namespace Target

variable {α L : Type} {r : Rule}

def compile (T : Target α L) (r : Rule) : Except RuleError (Predicate α) :=
  match r.formula T.leaf with
  | .error e => .error e
  | .ok f => .ok ⟨T.name, fun a => f.evaluate (T.holds a)⟩

/-- What a condition says of a record. -/
def value (T : Target α L) (a : α) : Condition → Except RuleError Bool :=
  Rule.tested T.leaf (T.holds a)

def check (T : Target α L) : Check → Except RuleError Unit :=
  Check.run fun c => verdict (T.leaf c)

/-- Compiling a valid rule gives the first fault of its checks, or the predicate that gives every
record the outcome of the rule. -/
theorem compile_eq (T : Target α L) (hv : r.Valid) :
    T.compile r =
      match runAll T.check r.checks with
      | .error e => .error e
      | .ok () => .ok ⟨T.name, fun a => r.outcome (T.value a)⟩ := by
  rw [compile, check, ← Rule.verdict_formula hv]
  cases h : r.formula T.leaf with
  | error e => rfl
  | ok f =>
    have he : (fun a => f.evaluate (T.holds a)) = fun a => r.outcome (T.value a) :=
      funext fun a => Rule.evaluate_of_formula h
    show Except.ok _ = Except.ok _
    rw [he]

theorem value_of_leaf (T : Target α L) {a : α} {c : Condition} {l : L} (h : T.leaf c = .ok l) :
    T.value a c = T.holds a l := by
  rw [value, Rule.tested, h]

/-- A valid rule that compiles has conditions that compile, and gives its outcome. -/
theorem of_compile_eq_ok (T : Target α L) {p : Predicate α} (hv : r.Valid)
    (h : T.compile r = .ok p) :
    r.Accepted (fun c => ∃ l, T.leaf c = .ok l) ∧ p = ⟨T.name, fun a => r.outcome (T.value a)⟩ := by
  rw [T.compile_eq hv] at h
  split at h
  · cases h
  · rename_i hrun
    cases h
    refine ⟨fun d hd => ?_, rfl⟩
    obtain ⟨hconditions, harity⟩ := Rule.forall_mem_checks.mp (runAll_eq_ok_iff.mp hrun) d hd
    refine ⟨fun c hc => verdict_eq_ok_iff.mp (hconditions c hc), fun hop => ?_⟩
    have hrun : (if d.arity = 1 then .ok () else .error (.invalidArity .not 1 d.arity)) =
      (.ok () : Except RuleError Unit) := harity hop
    split at hrun
    · assumption
    · cases hrun

theorem exists_compile_eq_ok_iff (T : Target α L) (hv : r.Valid) :
    (∃ p, T.compile r = .ok p) ↔ r.Accepted fun c => ∃ l, T.leaf c = .ok l := by
  constructor
  · rintro ⟨p, h⟩
    exact (T.of_compile_eq_ok hv h).1
  · intro h
    have hrun : runAll T.check r.checks = .ok () := by
      refine runAll_eq_ok_iff.mpr (Rule.forall_mem_checks.mpr fun d hd => ?_)
      obtain ⟨hconditions, harity⟩ := h d hd
      exact ⟨fun c hc => verdict_eq_ok_iff.mpr (hconditions c hc), fun hop => if_pos (harity hop)⟩
    rw [T.compile_eq hv, hrun]
    exact ⟨_, rfl⟩

end Target

namespace Flat

def target {α : Type} (t : RecordType α) : Target α FieldTest :=
  ⟨t.name, leaf t, fun a test => test.evaluate t a⟩

theorem compile_eq_target {α : Type} (t : RecordType α) (r : Rule) :
    compile t r = (target t).compile r := by
  rw [compile, Target.compile, target]
  cases r.formula (leaf t) <;> rfl

end Flat

namespace Entities

def target {α : Type} (conventions : Conventions) (t : EntityType α) : Target α EntityTest :=
  ⟨t.name, leaf conventions t, fun a test => test.evaluate t a⟩

theorem compile_eq_target {α : Type} (conventions : Conventions) (t : EntityType α) (r : Rule) :
    compile conventions t r = (target conventions t).compile r := by
  rw [compile, Target.compile, target]
  cases r.formula (leaf conventions t) <;> rfl

end Entities

namespace Owned

def target {α β : Type} (conventions : Conventions) (t : AttributeType α β) :
    Target α OwnedTest :=
  ⟨t.name, leaf conventions t, fun a test => test.evaluate t a⟩

theorem compile_eq_target {α β : Type} (conventions : Conventions) (t : AttributeType α β)
    (r : Rule) : compile conventions t r = (target conventions t).compile r := by
  rw [compile, Target.compile, target]
  cases r.formula (leaf conventions t) <;> rfl

end Owned
end RecordRules
