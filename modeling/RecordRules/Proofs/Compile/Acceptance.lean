import RecordRules.Proofs.Compile.Route
import RecordRules.Proofs.Compile.Typing

/-!
# RecordRules.Proofs.Compile.Acceptance

Which rules compile, and with which error the others fail.

* `Acceptable` and `Fault` say for each way of compiling what a condition must be like, and how it
  can fall short of that, by the record that its field leads to.
* `Target.compile_judged` lifts this from conditions to rules of any depth.
* `compile_judged_by_checks` states the result for the three ways of compiling.
-/

namespace RecordRules

/-! ## Conditions -/

/-- What is wrong behind a leading text: that there is no name, or else what is wrong with it. -/
def NameFault (name : String) (nameless : RuleError) (fault : RuleError → Prop) (e : RuleError) :
    Prop :=
  (Text.allBlank name.toList = true ∧ e = nameless) ∨ (Text.allBlank name.toList = false ∧ fault e)

theorem judged_of_name {α γ : Type} {name : String} {nameless : RuleError} {f : γ → α}
    {x : Except RuleError γ} {good : Prop} {fault : RuleError → Prop} (h : Judged x good fault) :
    Judged (if Text.allBlank name.toList then .error nameless else x.map f)
      (Text.allBlank name.toList = false ∧ good) (NameFault name nameless fault) := by
  cases hb : Text.allBlank name.toList with
  | false => exact h.map.congr (by simp) fun e => by simp [NameFault, hb]
  | true => exact .of_verdict (by simp [verdict]) fun e => by simp [NameFault, hb, verdict, eq_comm]

namespace Flat

def Acceptable {α : Type} (t : RecordType α) (c : Condition) : Prop :=
  c.WellTyped t.schema c.field

def Fault {α : Type} (t : RecordType α) (c : Condition) (e : RuleError) : Prop :=
  c.FieldFault t c.field e

end Flat

namespace Entities

variable {α : Type} {conventions : Conventions} {t : EntityType α} {c : Condition}

/-- A condition on the attributes with a key or on a field of the entity. -/
def Acceptable (conventions : Conventions) (t : EntityType α) (c : Condition) : Prop :=
  AlongRoute conventions.attributeLead c.field
    (fun key => Text.allBlank key.toList = false ∧ c.Orderable) (Flat.Acceptable t.toRecordType c)

def Fault (conventions : Conventions) (t : EntityType α) (c : Condition) (e : RuleError) : Prop :=
  AlongRoute conventions.attributeLead c.field
    (fun key => NameFault key (.invalidArgument (.blankKey c.field)) c.OrderFault e)
    (Flat.Fault t.toRecordType c e)

theorem leaf_judged (hv : c.Valid) :
    Judged (leaf conventions t c) (Acceptable conventions t c) (Fault conventions t c) := by
  obtain ⟨key, h⟩ | h := routed_or_unrouted conventions.attributeLead c.field
  · rw [leaf_of_routed h, linkedLeaf_eq]
    refine (judged_of_name (AttributeTest.make_judged hv)).congr ?_ fun e => ?_
    · rw [Acceptable, alongRoute_of_routed h]
    · rw [Fault, alongRoute_of_routed h]
  · rw [leaf_of_unrouted h]
    refine (fieldTest_judged hv).map.congr ?_ fun e => ?_
    · rw [Acceptable, alongRoute_of_unrouted h]
      rfl
    · rw [Fault, alongRoute_of_unrouted h]
      rfl

end Entities

namespace Owned

variable {α β : Type} {conventions : Conventions} {t : AttributeType α β} {c : Condition}

/-- A condition on a field of the owner or of the attribute. -/
def Acceptable (conventions : Conventions) (t : AttributeType α β) (c : Condition) : Prop :=
  AlongRoute conventions.ownerLead c.field
    (fun name => Text.allBlank name.toList = false ∧ c.WellTyped t.ownerType.schema name)
    (Flat.Acceptable t.toRecordType c)

def Fault (conventions : Conventions) (t : AttributeType α β) (c : Condition) (e : RuleError) :
    Prop :=
  AlongRoute conventions.ownerLead c.field
    (fun name => NameFault name (.invalidArgument (.blankOwnerField c.field))
      (c.FieldFault t.ownerType name) e)
    (Flat.Fault t.toRecordType c e)

theorem leaf_judged (hv : c.Valid) :
    Judged (leaf conventions t c) (Acceptable conventions t c) (Fault conventions t c) := by
  obtain ⟨name, h⟩ | h := routed_or_unrouted conventions.ownerLead c.field
  · rw [leaf_of_routed h, ownerLeaf_eq]
    refine (judged_of_name (fieldTest_judged hv)).congr ?_ fun e => ?_
    · rw [Acceptable, alongRoute_of_routed h]
    · rw [Fault, alongRoute_of_routed h]
  · rw [leaf_of_unrouted h]
    refine (fieldTest_judged hv).map.congr ?_ fun e => ?_
    · rw [Acceptable, alongRoute_of_unrouted h]
      rfl
    · rw [Fault, alongRoute_of_unrouted h]
      rfl

end Owned

/-! ## Rules -/

namespace Target

variable {α L : Type} {T : Target α L} {good : Condition → Prop}
  {fault : Condition → RuleError → Prop}

theorem check_eq_error_iff
    (hleaf : ∀ c : Condition, c.Valid → Judged (T.leaf c) (good c) (fault c)) {k : Check}
    (hk : ∀ c, k = .condition c → c.Valid) {e : RuleError} :
    T.check k = .error e ↔ k.Fault fault e := by
  cases k with
  | condition c => exact (hleaf c (hk c rfl)).verdict_eq_error_iff
  | negation n =>
    show (if n = 1 then _ else _) = _ ↔ n ≠ 1 ∧ _
    split
    · rename_i h
      simp [h]
    · rename_i h
      simp [h, eq_comm]

theorem check_eq_ok_iff
    (hleaf : ∀ c : Condition, c.Valid → Judged (T.leaf c) (good c) (fault c)) {k : Check}
    (hk : ∀ c, k = .condition c → c.Valid) :
    T.check k = .ok () ↔ ∀ e, ¬k.Fault fault e := by
  simp only [← check_eq_error_iff hleaf hk]
  cases T.check k <;> simp

/-- Where conditions are judged, so are rules of any depth. -/
theorem compile_judged {r : Rule} (hv : r.Valid)
    (hleaf : ∀ c : Condition, c.Valid → Judged (T.leaf c) (good c) (fault c)) :
    Judged (T.compile r) (r.Accepted good) (r.FirstFault fault) := by
  have hvalid : ∀ d ∈ r.subrules, ∀ c ∈ d.conditions, c.Valid := fun d hd =>
    (Rule.valid_iff.mp hv d hd).2
  have hrun : verdict (T.compile r) = runAll T.check r.checks := by
    rw [T.compile_eq hv]
    cases runAll T.check r.checks <;> rfl
  refine .of_verdict ?_ fun e => ?_
  · rw [hrun, runAll_eq_ok_iff, Rule.forall_mem_checks]
    refine forall₂_congr fun d hd => and_congr (forall₂_congr fun c hc => ?_)
      (imp_congr_right fun _ => ?_)
    · exact (hleaf c (hvalid d hd c hc)).verdict_eq_ok_iff
    · show (if d.arity = 1 then _ else _) = _ ↔ _
      split <;> simp_all
  · have hchecks : ∀ k ∈ r.checks, ∀ c, k = .condition c → c.Valid := by
      refine Rule.forall_mem_checks.mpr fun d hd => ⟨fun c hc c' he => ?_, fun _ c he => ?_⟩
      · cases he
        exact hvalid d hd c hc
      · cases he
    rw [hrun, runAll_eq_error_iff]
    refine exists₃_congr fun before k after => and_congr_right fun he => ?_
    rw [he] at hchecks
    refine and_congr (forall₂_congr fun k' hk' => ?_) ?_
    · exact check_eq_ok_iff hleaf (hchecks k' (List.mem_append_left _ hk'))
    · exact check_eq_error_iff hleaf
        (hchecks k (List.mem_append_right _ List.mem_cons_self))

end Target

/-- **Which rules compile.** A valid rule compiles exactly if every condition at every depth is
acceptable and every negation at every depth has one expression. Otherwise the error is the first
on the way through the rule: conditions in order, nested rules in order, then the arity. -/
theorem compile_judged_by_checks {r : Rule} (hv : r.Valid) :
    (∀ {α : Type} (t : RecordType α),
      Judged (Flat.compile t r) (r.Accepted (Flat.Acceptable t)) (r.FirstFault (Flat.Fault t))) ∧
    (∀ {α : Type} (conventions : Conventions) (t : EntityType α),
      Judged (Entities.compile conventions t r) (r.Accepted (Entities.Acceptable conventions t))
        (r.FirstFault (Entities.Fault conventions t))) ∧
    (∀ {α β : Type} (conventions : Conventions) (t : AttributeType α β),
      Judged (Owned.compile conventions t r) (r.Accepted (Owned.Acceptable conventions t))
        (r.FirstFault (Owned.Fault conventions t))) := by
  refine ⟨fun t => ?_, fun conventions t => ?_, fun conventions t => ?_⟩
  · rw [Flat.compile_eq_target]
    exact Target.compile_judged hv fun c hc => fieldTest_judged hc
  · rw [Entities.compile_eq_target]
    exact Target.compile_judged hv fun c hc => Entities.leaf_judged hc
  · rw [Owned.compile_eq_target]
    exact Target.compile_judged hv fun c hc => Owned.leaf_judged hc

/-- A negation of two conditions, ahead of a field that is not there. -/
def crowdedRule : Rule :=
  .node .and [⟨"metadata.level", .gt, .single (.text " 5")⟩]
    [.node .not
        [⟨"city", .eq, .single (.text "Oslo")⟩, ⟨"age", .gte, .single (.number (.signed 18))⟩] [],
      .node .or [⟨"town", .eq, .single (.text "Oslo")⟩] []]

def staff : EntityType Row :=
  { Row.type "staff" [⟨"city", .text⟩, ⟨"age", .number⟩] with links := fun _ => [] }

theorem firstFault_crowdedRule :
    crowdedRule.Valid ∧ ¬crowdedRule.Accepted (Entities.Acceptable .standard staff) ∧
      crowdedRule.FirstFault (Entities.Fault .standard staff) (.invalidArity .not 1 2) := by
  have hv : crowdedRule.Valid := by decide
  have hjudged := (compile_judged_by_checks hv).2.1 .standard staff
  have herror : Entities.compile .standard staff crowdedRule = .error (.invalidArity .not 1 2) := by
    rfl
  refine ⟨hv, fun h => ?_, (hjudged.isError_iff _).mp herror⟩
  obtain ⟨p, hp⟩ := hjudged.isOk_iff.mpr h
  rw [herror] at hp
  cases hp

end RecordRules
