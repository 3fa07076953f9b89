import RecordRules.Proofs.Builder
import RecordRules.Proofs.Compile.Acceptance
import RecordRules.Proofs.Exchange.Reading
import RecordRules.Proofs.Stored.Grammar

/-!
# RecordRules.Proofs.Obtained

Where rules come from, and what all of them have in common.

* `Condition.Obtained`, `Rule.Obtained` and `Builder.Reached` are the conditions, rules and levels
  under construction that a program can get hold of: from the checks, from stored texts, from
  documents, from steps of construction, and from anything it has already.
* `RuleError.Misfit` are the errors that blame an operator where it stands or the shape of a
  constant. A valid rule compiles with none of them (`Target.not_misfit_of_compile`).
* `valid_of_obtained`: whatever is obtained is valid.
-/

namespace RecordRules

mutual

inductive Condition.Obtained : Condition → Prop where
  | made {field : String} {op : Operator} {value : Constant} {c : Condition}
      (checked : Condition.make field op value = .ok c) : Condition.Obtained c
  | document {v : Json} {c : Condition} (read : Exchange.conditionOf v = .ok c) :
      Condition.Obtained c
  | part {r : Rule} {c : Condition} (whole : Rule.Obtained r) (mem : c ∈ r.conditions) :
      Condition.Obtained c

inductive Rule.Obtained : Rule → Prop where
  | made {op : Operator} {cs : List Condition} {rs : List Rule} {r : Rule}
      (conditions : ∀ c ∈ cs, Condition.Obtained c) (nested : ∀ n ∈ rs, Rule.Obtained n)
      (checked : Rule.make op cs rs = .ok r) : Rule.Obtained r
  | stored {f : StoredFormat} {text : Option String} {r : Rule}
      (read : f.readStored text = .ok r) : Rule.Obtained r
  | document {v : Json} {r : Rule} (read : Exchange.ruleOf v = .ok r) : Rule.Obtained r
  | built {b : Builder} (reached : Builder.Reached b) : Rule.Obtained b.build
  | part {r n : Rule} (whole : Rule.Obtained r) (mem : n ∈ r.nested) : Rule.Obtained n

/-- A step that fails gives no level, and leaves the one it was taken on as it was. -/
inductive Builder.Reached : Builder → Prop where
  | empty : Builder.Reached .empty
  | step {b b' : Builder} {s : BuildStep} (reached : Builder.Reached b)
      (taken : b.step s = .ok b') : Builder.Reached b'
  | rule {b : Builder} {r : Rule} (reached : Builder.Reached b) (obtained : Rule.Obtained r) :
      Builder.Reached (b.addRule r)

end

theorem Builder.Reached.run {b b' : Builder} {steps : List BuildStep} (h : b.Reached)
    (hrun : b.run steps = .ok b') : b'.Reached := by
  induction steps generalizing b with
  | nil =>
    rw [Builder.run] at hrun
    cases hrun
    exact h
  | cons s steps ih =>
    rw [Builder.run] at hrun
    split at hrun
    · cases hrun
    · rename_i hs
      exact ih (h.step hs) hrun

theorem Rule.Obtained.of_read {text : String} {r : Rule} (h : Exchange.read text = .ok r) :
    r.Obtained :=
  .document (Exchange.ruleOf_of_read h)

/-! ## Validity -/

theorem Stored.valid_of_readStored {f : StoredFormat} {text : Option String} {r : Rule}
    (h : f.readStored text = .ok r) : r.Valid := by
  cases text with
  | none => cases h
  | some text =>
    obtain ⟨gs, -, hr⟩ := Stored.read_eq_ok_iff.mp h
    exact Stored.valid_of_readGroups hr

-- The recursion is on how things were obtained. What comes out of a text or a document has been
-- checked there at every depth; the other ways hand on what was obtained before.
mutual

theorem Condition.Obtained.valid {c : Condition} : c.Obtained → c.Valid
  | .made checked => (Condition.make_eq_ok_iff.mp checked).2
  | .document read => Exchange.valid_of_conditionOf read
  | .part whole mem => by
    cases whole.valid with
    | node combines conditions_valid nested_valid => exact conditions_valid _ mem

theorem Rule.Obtained.valid {r : Rule} : r.Obtained → r.Valid
  | .made conditions nested checked => by
    obtain ⟨rfl, combines⟩ := Rule.make_eq_ok_iff.mp checked
    exact .node combines (fun c hc => (conditions c hc).valid) fun n hn => (nested n hn).valid
  | .stored read => Stored.valid_of_readStored read
  | .document read => Exchange.valid_of_ruleOf read
  | .built reached => reached.valid
  | .part whole mem => by
    cases whole.valid with
    | node combines conditions_valid nested_valid => exact nested_valid _ mem

theorem Builder.Reached.valid {b : Builder} : b.Reached → b.build.Valid
  | .empty => Builder.valid_empty
  | .step reached taken => Builder.valid_of_step reached.valid _ taken
  | .rule reached obtained => Builder.valid_addRule reached.valid obtained.valid

end

/-! ## Errors -/

/-- The errors that blame an operator where it stands, or the shape of a constant. -/
inductive RuleError.Misfit : RuleError → Prop where
  | operator {fault : OperatorFault} : Misfit (.unsupportedOperator fault)
  | single {field : String} {op : Operator} : Misfit (.typeMismatch field (.needsSingle op))
  | array {field : String} {op : Operator} : Misfit (.typeMismatch field (.needsArray op))
  | pattern {field : String} {op : Operator} : Misfit (.typeMismatch field (.needsPattern op))

theorem Condition.not_misfit_of_fieldFault {α : Type} {t : RecordType α} {c : Condition}
    {name : String} {e : RuleError} (h : c.FieldFault t name e) : ¬e.Misfit := by
  intro hm
  cases h with
  | unknown => cases hm
  | unfit entry fault => cases fault <;> cases hm

theorem Condition.not_misfit_of_orderFault {c : Condition} {e : RuleError} (h : c.OrderFault e) :
    ¬e.Misfit := by
  obtain ⟨-, s, -, -, rfl⟩ := h
  intro hm
  cases hm

theorem not_misfit_of_nameFault {name : String} {argument : ArgumentFault}
    {fault : RuleError → Prop} {e : RuleError} (hfault : fault e → ¬e.Misfit)
    (h : NameFault name (.invalidArgument argument) fault e) : ¬e.Misfit := by
  obtain ⟨-, rfl⟩ | ⟨-, h⟩ := h
  · intro hm
    cases hm
  · exact hfault h

theorem Entities.not_misfit_of_fault {α : Type} {conventions : Conventions} {t : EntityType α}
    {c : Condition} {e : RuleError} (h : Fault conventions t c e) : ¬e.Misfit := by
  obtain ⟨key, -, h⟩ | ⟨-, h⟩ := h
  · exact not_misfit_of_nameFault Condition.not_misfit_of_orderFault h
  · exact Condition.not_misfit_of_fieldFault h

theorem Owned.not_misfit_of_fault {α β : Type} {conventions : Conventions} {t : AttributeType α β}
    {c : Condition} {e : RuleError} (h : Fault conventions t c e) : ¬e.Misfit := by
  obtain ⟨name, -, h⟩ | ⟨-, h⟩ := h
  · exact not_misfit_of_nameFault Condition.not_misfit_of_fieldFault h
  · exact Condition.not_misfit_of_fieldFault h

/-- Where no condition is at fault in this way, neither is a rule: an arity is not a misfit. -/
theorem Target.not_misfit_of_compile {α L : Type} {T : Target α L} {good : Condition → Prop}
    {fault : Condition → RuleError → Prop} {r : Rule} {e : RuleError}
    (he : T.compile r = .error e) (hv : r.Valid)
    (hleaf : ∀ c : Condition, c.Valid → Judged (T.leaf c) (good c) (fault c))
    (hfault : ∀ c, fault c e → ¬e.Misfit) : ¬e.Misfit := by
  obtain ⟨before, k, after, -, -, hk⟩ := ((compile_judged hv hleaf).isError_iff e).mp he
  cases k with
  | condition c => exact hfault c hk
  | negation n =>
    obtain ⟨-, rfl⟩ := hk
    intro hm
    cases hm

/-- **Whatever is obtained is valid.** At every depth, operators that combine combine, and each
condition names a field and gives an operator that compares a constant of the shape it takes. So no
way of compiling turns such a rule down for an operator or for the shape of a constant. -/
theorem valid_of_obtained {r : Rule} (h : r.Obtained) :
    r.Valid ∧
    (∀ {α : Type} (t : RecordType α) e, Flat.compile t r = .error e → ¬e.Misfit) ∧
    (∀ {α : Type} (conventions : Conventions) (t : EntityType α) e,
      Entities.compile conventions t r = .error e → ¬e.Misfit) ∧
    (∀ {α β : Type} (conventions : Conventions) (t : AttributeType α β) e,
      Owned.compile conventions t r = .error e → ¬e.Misfit) := by
  have hv := h.valid
  refine ⟨hv, fun t e he => ?_, fun conventions t e he => ?_, fun conventions t e he => ?_⟩
  · rw [Flat.compile_eq_target] at he
    exact Target.not_misfit_of_compile he hv (fun c hc => fieldTest_judged hc)
      fun _ => Condition.not_misfit_of_fieldFault
  · rw [Entities.compile_eq_target] at he
    exact Target.not_misfit_of_compile he hv (fun c hc => Entities.leaf_judged hc)
      fun _ => Entities.not_misfit_of_fault
  · rw [Owned.compile_eq_target] at he
    exact Target.not_misfit_of_compile he hv (fun c hc => Owned.leaf_judged hc)
      fun _ => Owned.not_misfit_of_fault

-- A rule that nothing obtains: a list beside an operator that takes one value.
example : Flat.compile staff.toRecordType (.node .and [⟨"age", .gt, .array []⟩] []) =
    .error (.typeMismatch "age" (.needsSingle .gt)) := by rfl

/-- A stored rule and a document, added to a level whose steps nest another level, under a
negation. -/
def gatheredRule : Rule :=
  .node .not []
    [.node .and [⟨"city", .eq, .single (.text "Oslo")⟩]
      [.node .or [⟨"age", .member, .array [.number (.signed 18)]⟩] [],
        .node .or [⟨"name", .like, .pattern "Ada"⟩] [],
        .node .and [⟨"age", .gt, .single (.number (.signed 65))⟩] []]]

def gatheringSteps : List BuildStep :=
  [.condition "city" "_eq" (.scalar (.text "Oslo")),
    .group [.combineWith "_or", .condition "age" "_in" (.list [.number (.signed 18)])]]

theorem valid_of_obtained_gatheredRule :
    gatheredRule.Obtained ∧ gatheredRule.Valid ∧
      Flat.compile staff.toRecordType gatheredRule = .error (.unknownField "name" "staff") ∧
      ¬(RuleError.unknownField "name" "staff").Misfit := by
  have hstored : StoredFormat.standard.readStored (some "query:[_or][name_like_Ada]") =
      .ok (.node .or [⟨"name", .like, .pattern "Ada"⟩] []) := by rfl
  have hdocument : Exchange.read "[\"_and\", [[\"age\", \"_gt\", \x7b\"single\": 65\x7d]]]" =
      .ok (.node .and [⟨"age", .gt, .single (.number (.signed 65))⟩] []) := by rfl
  obtain ⟨b, hrun, hmake⟩ : ∃ b, Builder.empty.run gatheringSteps = .ok b ∧ Rule.make .not []
      [((b.addRule (.node .or [⟨"name", .like, .pattern "Ada"⟩] [])).addRule
        (.node .and [⟨"age", .gt, .single (.number (.signed 65))⟩] [])).build] =
          .ok gatheredRule :=
    ⟨_, rfl, rfl⟩
  have hreached := ((Builder.Reached.empty.run hrun).rule (.stored hstored)).rule
    (.of_read hdocument)
  have h : gatheredRule.Obtained :=
    .made (by simp) (List.forall_mem_singleton.mpr (.built hreached)) hmake
  have herror : Flat.compile staff.toRecordType gatheredRule =
      .error (.unknownField "name" "staff") := by rfl
  obtain ⟨hv, hflat, -, -⟩ := valid_of_obtained h
  exact ⟨h, hv, herror, hflat _ _ herror⟩

end RecordRules
