import RecordRules.Proofs.Builder
import RecordRules.Proofs.Rule.Shape

/-!
# RecordRules.Proofs.Builder.Programs

What construction accepts and what it can build.

* `Literal.Suits`, `Literal.KeptAs` and `Literal.Misfit` say which literals an operator takes, what
  a condition keeps of one, and what is wrong with any other. `addCondition_eq_ok_iff` and
  `addCondition_eq_error_iff` are the two outcomes of adding a condition in these terms; the check
  of `Condition.make` never turns down what has come that far (`addCondition_eq`).
* `Rule.program` is a program for a rule, made of nothing but operators, conditions and groups. It
  builds the rule wherever the rule is valid (`run_program`).
* `builds_exactly_valid` puts both together.
-/

namespace RecordRules

/-! ## Literals -/

namespace Literal

/-- The literal is there, and is a list exactly where the operator asks for one. -/
def Suits (value : Literal) (op : Operator) : Prop :=
  value ≠ .null ∧ ((∃ items, value = .list items) ↔ op = .member ∨ op = .absent)

/-- What a condition keeps of a literal: the text of a value to search for, otherwise the literal as
it is. -/
inductive KeptAs (op : Operator) : Literal → Constant → Prop where
  | pattern {s : Scalar} (searches : op.kind = .text) :
      KeptAs op (.scalar s) (.pattern (String.ofList s.rendered))
  | single {s : Scalar} (compares : op.kind ≠ .text) : KeptAs op (.scalar s) (.single s)
  | array {items : List Scalar} : KeptAs op (.list items) (.array items)

/-- What is wrong with a literal that the operator does not take. -/
inductive Misfit (op : Operator) (field : String) : Literal → ArgumentFault → Prop where
  | missing : Misfit op field .null (.missingValue field)
  | needsList {s : Scalar} (lists : op.isMembership = true) :
      Misfit op field (.scalar s) (.needsList op field)
  | takesSingle {items : List Scalar} (compares : op.isMembership = false) :
      Misfit op field (.list items) (.takesSingle op field)

variable {op : Operator} {s : Scalar} {items : List Scalar}

theorem not_suits_null : ¬Literal.null.Suits op :=
  fun h => h.1 rfl

theorem suits_scalar_iff : (Literal.scalar s).Suits op ↔ op.isMembership = false := by
  rw [Suits, ← Operator.isMembership_iff]
  simp

theorem suits_list_iff : (Literal.list items).Suits op ↔ op.isMembership = true := by
  rw [Suits, ← Operator.isMembership_iff]
  simp

/-- A literal that suits is kept as a constant. -/
theorem Suits.exists_keptAs {value : Literal} (h : value.Suits op) : ∃ c, value.KeptAs op c := by
  cases value with
  | null => exact absurd h not_suits_null
  | scalar s =>
    by_cases hk : op.kind = .text
    · exact ⟨_, .pattern hk⟩
    · exact ⟨_, .single hk⟩
  | list items => exact ⟨_, .array⟩

end Literal

namespace Builder

variable {field : String} {op : Operator} {value : Literal}

theorem constantFor_eq_ok_iff {c : Constant} :
    constantFor field op value = .ok c ↔ value.Suits op ∧ value.KeptAs op c := by
  cases value with
  | null =>
    constructor
    · intro h
      cases h
    · rintro ⟨hsuits, -⟩
      exact absurd hsuits Literal.not_suits_null
  | scalar s =>
    rw [constantFor, Literal.suits_scalar_iff]
    by_cases hk : op.kind = .text
    · rw [if_pos hk]
      constructor
      · intro h
        cases h
        exact ⟨Operator.not_isMembership_of_text hk, .pattern hk⟩
      · rintro ⟨-, hkept⟩
        cases hkept with
        | pattern _ => rfl
        | single compares => exact absurd hk compares
    · rw [if_neg hk]
      constructor
      · intro h
        split at h
        · cases h
        · rename_i hm
          cases h
          exact ⟨by simpa using hm, .single hk⟩
      · rintro ⟨hm, hkept⟩
        rw [if_neg (by rw [hm]; decide)]
        cases hkept with
        | pattern searches => exact absurd searches hk
        | single _ => rfl
  | list items =>
    rw [constantFor, Literal.suits_list_iff]
    constructor
    · intro h
      split at h
      · rename_i hm
        cases h
        exact ⟨hm, .array⟩
      · cases h
    · rintro ⟨hm, hkept⟩
      rw [if_pos hm]
      cases hkept
      rfl

theorem constantFor_eq_error_iff {e : RuleError} :
    constantFor field op value = .error e ↔
      ∃ fault, value.Misfit op field fault ∧ e = .invalidArgument fault := by
  constructor
  · intro h
    cases value with
    | null =>
      cases h
      exact ⟨_, .missing, rfl⟩
    | scalar s =>
      rw [constantFor] at h
      split at h
      · cases h
      · split at h
        · rename_i hm
          cases h
          exact ⟨_, .needsList hm, rfl⟩
        · cases h
    | list items =>
      rw [constantFor] at h
      split at h
      · cases h
      · rename_i hm
        cases h
        exact ⟨_, .takesSingle (by simpa using hm), rfl⟩
  · rintro ⟨fault, hfault, rfl⟩
    cases hfault with
    | missing => rfl
    | needsList lists =>
      have hk : op.kind ≠ .text := by
        rw [Operator.kind_of_isMembership lists]
        decide
      rw [constantFor, if_neg hk, if_pos lists]
    | takesSingle compares => rw [constantFor, if_neg (by rw [compares]; decide)]

/-- What is kept of a literal has the shape that the operator takes. -/
theorem fits_of_constantFor {c : Constant} (hop : op.isLogical = false)
    (h : constantFor field op value = .ok c) : c.fits op = true := by
  obtain ⟨hsuits, hkept⟩ := constantFor_eq_ok_iff.mp h
  cases hkept with
  | pattern searches => simp [Constant.fits, searches]
  | single compares =>
    rw [Constant.fits, Operator.kind_of_not_text hop compares, Literal.suits_scalar_iff.mp hsuits]
    rfl
  | array => exact Literal.suits_list_iff.mp hsuits

/-! ## Adding a condition -/

theorem make_of_constantFor {c : Constant} (hf : Text.allBlank field.toList = false)
    (hop : op.isLogical = false) (h : constantFor field op value = .ok c) :
    Condition.make field op c = .ok ⟨field, op, c⟩ :=
  Condition.make_eq_ok_iff.mpr ⟨rfl, hf, hop, fits_of_constantFor hop h⟩

variable {b : Builder}

/-- The check of the condition itself never has the last word. -/
theorem addCondition_eq (hf : Text.allBlank field.toList = false) (hop : op.isLogical = false) :
    b.addCondition field op value =
      (constantFor field op value).map fun c =>
        { b with conditions := b.conditions ++ [⟨field, op, c⟩] } := by
  rw [addCondition, hf, hop]
  cases h : constantFor field op value with
  | error e => rfl
  | ok c =>
    simp only [make_of_constantFor hf hop h]
    rfl

theorem addCondition_of_blank (hf : Text.allBlank field.toList = true) :
    b.addCondition field op value = .error (.invalidArgument .blankField) := by
  rw [addCondition, if_pos hf]

theorem addCondition_of_logical (hf : Text.allBlank field.toList = false)
    (hop : op.isLogical = true) :
    b.addCondition field op value = .error (.unsupportedOperator (.notForCondition op)) := by
  rw [addCondition, if_neg (by rw [hf]; decide), if_pos hop]

theorem addCondition_eq_ok_iff {b' : Builder} :
    b.addCondition field op value = .ok b' ↔
      Text.allBlank field.toList = false ∧ op.isLogical = false ∧ value.Suits op ∧
        ∃ c, value.KeptAs op c ∧
          b' = { b with conditions := b.conditions ++ [⟨field, op, c⟩] } := by
  cases hf : Text.allBlank field.toList with
  | true => simp [addCondition_of_blank hf]
  | false =>
    cases hop : op.isLogical with
    | true => simp [addCondition_of_logical hf hop]
    | false =>
      rw [addCondition_eq hf hop]
      constructor
      · intro h
        cases hc : constantFor field op value with
        | error e =>
          rw [hc] at h
          cases h
        | ok c =>
          rw [hc] at h
          cases h
          obtain ⟨hsuits, hkept⟩ := constantFor_eq_ok_iff.mp hc
          exact ⟨rfl, rfl, hsuits, c, hkept, rfl⟩
      · rintro ⟨-, -, hsuits, c, hkept, rfl⟩
        rw [constantFor_eq_ok_iff.mpr ⟨hsuits, hkept⟩]
        rfl

theorem addCondition_eq_error_iff {e : RuleError} :
    b.addCondition field op value = .error e ↔
      if Text.allBlank field.toList then e = .invalidArgument .blankField
      else if op.isLogical then e = .unsupportedOperator (.notForCondition op)
      else ∃ fault, value.Misfit op field fault ∧ e = .invalidArgument fault := by
  cases hf : Text.allBlank field.toList with
  | true => simp [addCondition_of_blank hf, eq_comm]
  | false =>
    cases hop : op.isLogical with
    | true => simp [addCondition_of_logical hf hop, eq_comm]
    | false =>
      rw [addCondition_eq hf hop, if_neg Bool.false_ne_true, if_neg Bool.false_ne_true,
        ← constantFor_eq_error_iff]
      cases constantFor field op value <;> simp [Except.map]

end Builder

/-! ## Programs -/

/-- The step sets an operator, adds a condition, or adds a rule that steps of this kind build from
the start: no step adds a finished rule. -/
inductive BuildStep.FromParts : BuildStep → Prop where
  | combineWith {token : String} : FromParts (.combineWith token)
  | condition {field token : String} {value : Literal} : FromParts (.condition field token value)
  | group {steps : List BuildStep} (h : ∀ s ∈ steps, FromParts s) : FromParts (.group steps)

/-- A literal of which a condition keeps the constant. -/
def Constant.literal : Constant → Literal
  | .single s => .scalar s
  | .array items => .list items
  | .pattern p => .scalar (.text p)

def Condition.step (c : Condition) : BuildStep :=
  .condition c.field c.operator.token c.value.literal

namespace Rule

mutual

/-- The steps that build a rule from the start: its operator, its conditions, and a group for each
rule nested in it. -/
def program : Rule → List BuildStep
  | .node op cs rs => .combineWith op.token :: (cs.map Condition.step ++ programsOfAll rs)

def programsOfAll : List Rule → List BuildStep
  | [] => []
  | r :: rs => .group (program r) :: programsOfAll rs

end

theorem programsOfAll_eq (rs : List Rule) :
    programsOfAll rs = rs.map fun n => .group n.program := by
  induction rs with
  | nil => rfl
  | cons r rs ih => rw [programsOfAll, ih, List.map_cons]

theorem fromParts_program (r : Rule) : ∀ s ∈ r.program, s.FromParts := by
  induction r with
  | node op cs rs ih =>
    rw [program, programsOfAll_eq, List.forall_mem_cons, List.forall_mem_append,
      List.forall_mem_map, List.forall_mem_map]
    refine ⟨.combineWith, ?_, ?_⟩
    · intro c hc
      exact .condition
    · intro n hn
      exact .group (ih n hn)

end Rule

theorem Constant.suits_literal {v : Constant} {op : Operator} (h : v.fits op = true) :
    v.literal.Suits op ∧ v.literal.KeptAs op v := by
  cases v with
  | single s =>
    simp only [fits, Bool.and_eq_true, beq_iff_eq, Bool.not_eq_true'] at h
    obtain ⟨hk, hm⟩ := h
    refine ⟨Literal.suits_scalar_iff.mpr hm, .single ?_⟩
    rw [hk]
    decide
  | array items => exact ⟨Literal.suits_list_iff.mpr h, .array⟩
  | pattern p =>
    have hk : op.kind = .text := by simpa [fits] using h
    have hkept : (Literal.scalar (.text p)).KeptAs op (.pattern (String.ofList p.toList)) :=
      .pattern hk
    rw [String.ofList_toList] at hkept
    exact ⟨Literal.suits_scalar_iff.mpr (Operator.not_isMembership_of_text hk), hkept⟩

namespace Builder

variable {b : Builder}

theorem run_append (xs ys : List BuildStep) :
    b.run (xs ++ ys) = (b.run xs).bind fun b' => b'.run ys := by
  induction xs generalizing b with
  | nil => simp only [List.nil_append, run, Except.bind]
  | cons s xs ih =>
    rw [List.cons_append, run, run]
    cases b.step s with
    | error e => rfl
    | ok b' => exact ih

theorem named_token (op : Operator) : Operator.named op.token = .ok op := by
  rw [Operator.named, Operator.ofToken?_token]

theorem step_combineWith {op : Operator} (h : op.isLogical = true) :
    b.step (.combineWith op.token) = .ok { b with operator := op } := by
  simp only [step, named_token]
  exact combineWith_eq_ok_iff.mpr ⟨h, rfl⟩

theorem step_condition {c : Condition} (h : c.Valid) :
    b.step c.step = .ok { b with conditions := b.conditions ++ [c] } := by
  obtain ⟨hsuits, hkept⟩ := Constant.suits_literal h.value_fits
  simp only [Condition.step, step, named_token]
  exact addCondition_eq_ok_iff.mpr
    ⟨h.field_named, h.operator_compares, hsuits, c.value, hkept, rfl⟩

theorem run_conditions {cs : List Condition} (h : ∀ c ∈ cs, c.Valid) :
    b.run (cs.map Condition.step) = .ok { b with conditions := b.conditions ++ cs } := by
  induction cs generalizing b with
  | nil => simp only [List.map_nil, run, List.append_nil]
  | cons c cs ih =>
    obtain ⟨hc, hcs⟩ := List.forall_mem_cons.mp h
    simp only [List.map_cons, run, step_condition hc, ih hcs, List.append_assoc,
      List.singleton_append]

theorem run_groups {rs : List Rule}
    (h : ∀ n ∈ rs, empty.run n.program = .ok ⟨n.operator, n.conditions, n.nested⟩) :
    b.run (rs.map fun n => .group n.program) = .ok { b with nested := b.nested ++ rs } := by
  induction rs generalizing b with
  | nil => simp only [List.map_nil, run, List.append_nil]
  | cons n rs ih =>
    obtain ⟨hn, hrs⟩ := List.forall_mem_cons.mp h
    have hbuild : build ⟨n.operator, n.conditions, n.nested⟩ = n := by cases n; rfl
    simp only [List.map_cons, run, step, hn, hbuild, addRule, ih hrs, List.append_assoc,
      List.singleton_append]

/-- The program of a valid rule leaves the level of the rule behind. -/
theorem run_program {r : Rule} (hv : r.Valid) :
    empty.run r.program = .ok ⟨r.operator, r.conditions, r.nested⟩ := by
  induction r with
  | node op cs rs ih =>
    cases hv with
    | node combines conditions_valid nested_valid =>
      have hnested := fun n hn => ih n hn (nested_valid n hn)
      simp only [Rule.program, Rule.programsOfAll_eq, run, step_combineWith combines, run_append,
        run_conditions conditions_valid, Except.bind, run_groups hnested]
      rfl

end Builder

/-- **Construction builds exactly the valid rules, and its checks are those of the conditions.** A
rule is valid if and only if a program of operators, conditions and groups, all of whose steps
succeed, builds it from the start. A condition is added exactly where the field is not blank, the
operator compares and the literal suits it; then it stands behind those that were there, with its
field, its operator and what it keeps of the literal, and making it is never refused. Any other
error blames the field first, then the operator, then the literal. -/
theorem builds_exactly_valid :
    (∀ r : Rule, r.Valid ↔
      ∃ steps b, (∀ s ∈ steps, BuildStep.FromParts s) ∧ Builder.empty.run steps = .ok b ∧
        b.build = r) ∧
    ∀ (b : Builder) (field : String) (op : Operator) (value : Literal),
      ((∃ b', b.addCondition field op value = .ok b') ↔
        Text.allBlank field.toList = false ∧ op.isLogical = false ∧ value.Suits op) ∧
      (∀ b', b.addCondition field op value = .ok b' → ∃ c, value.KeptAs op c ∧
        b' = { b with conditions := b.conditions ++ [⟨field, op, c⟩] }) ∧
      (∀ c, Text.allBlank field.toList = false → op.isLogical = false →
        Builder.constantFor field op value = .ok c →
        Condition.make field op c = .ok ⟨field, op, c⟩) ∧
      ∀ e, b.addCondition field op value = .error e ↔
        if Text.allBlank field.toList then e = .invalidArgument .blankField
        else if op.isLogical then e = .unsupportedOperator (.notForCondition op)
        else ∃ fault, value.Misfit op field fault ∧ e = .invalidArgument fault := by
  constructor
  · intro r
    constructor
    · intro hv
      refine ⟨r.program, _, r.fromParts_program, Builder.run_program hv, ?_⟩
      cases r
      rfl
    · rintro ⟨steps, b, -, hrun, rfl⟩
      exact Builder.valid_of_run Builder.valid_empty steps hrun
  · intro b field op value
    refine ⟨?_, ?_, fun c hf hop h => Builder.make_of_constantFor hf hop h,
      fun e => Builder.addCondition_eq_error_iff⟩
    · constructor
      · rintro ⟨b', h⟩
        obtain ⟨hf, hop, hsuits, -⟩ := Builder.addCondition_eq_ok_iff.mp h
        exact ⟨hf, hop, hsuits⟩
      · rintro ⟨hf, hop, hsuits⟩
        obtain ⟨c, hkept⟩ := hsuits.exists_keptAs
        exact ⟨_, Builder.addCondition_eq_ok_iff.mpr ⟨hf, hop, hsuits, c, hkept, rfl⟩⟩
    · intro b' h
      obtain ⟨-, -, -, c, hkept, hb'⟩ := Builder.addCondition_eq_ok_iff.mp h
      exact ⟨c, hkept, hb'⟩

end RecordRules
