import RecordRules.Proofs.Compile.Agreement
import RecordRules.Proofs.Compile.Meaning

/-!
# RecordRules.Proofs.Compile.Extension

How compiling over related records extends compiling over plain ones.

* A rule none of whose fields leads on is compiled as over the records alone (`compile_of_unrouted`,
  once for entities and once for attributes).
* A rule all of whose fields lead on to the owner is the rule without the leading text
  (`Rule.behind`), compiled over owners: `Owned.leaf_eq_behind` says so of a condition. Where the
  way to the owner is broken every condition is false, which a negation turns around
  (`Owned.answers_of_no_owner`).
-/

namespace RecordRules

namespace Condition

/-- The condition on what is behind a leading text. -/
def behind (lead : String) (c : Condition) : Condition :=
  { c with field := String.ofList (c.field.toList.drop lead.toList.length) }

theorem field_behind {lead name : String} {c : Condition} (h : Routed lead c.field name) :
    (c.behind lead).field = name := by
  rw [behind, h.2, String.toList_append, List.drop_left, String.ofList_toList]

theorem valid_behind {lead name : String} {c : Condition} (hv : c.Valid)
    (h : Routed lead c.field name) (hb : Text.allBlank name.toList = false) :
    (c.behind lead).Valid :=
  ⟨by rw [field_behind h]; exact hb, hv.operator_compares, hv.value_fits⟩

end Condition

namespace Rule

/-- The rule with a leading text taken from every field. -/
def behind (lead : String) (r : Rule) : Rule :=
  r.mapConditions (Condition.behind lead)

end Rule

namespace Entities

theorem compile_of_unrouted {α : Type} {conventions : Conventions} {t : EntityType α} {r : Rule}
    (hv : r.Valid)
    (h : ∀ d ∈ r.subrules, ∀ c ∈ d.conditions,
      ∀ key, ¬Routed conventions.attributeLead c.field key) :
    compile conventions t r = Flat.compile t.toRecordType r := by
  rw [compile_eq_target, Flat.compile_eq_target]
  exact Target.compile_of_map hv rfl (fun d hd c hc => leaf_of_unrouted (h d hd c hc))
    fun a test => rfl

end Entities

namespace Owned

variable {α β : Type} {conventions : Conventions} {t : AttributeType α β} {r : Rule}

theorem compile_of_unrouted (hv : r.Valid)
    (h : ∀ d ∈ r.subrules, ∀ c ∈ d.conditions, ∀ name, ¬Routed conventions.ownerLead c.field name) :
    compile conventions t r = Flat.compile t.toRecordType r := by
  rw [compile_eq_target, Flat.compile_eq_target]
  exact Target.compile_of_map hv rfl (fun d hd c hc => leaf_of_unrouted (h d hd c hc))
    fun a test => rfl

theorem leaf_eq_behind {c : Condition} {name : String}
    (h : Routed conventions.ownerLead c.field name)
    (hb : Text.allBlank name.toList = false) :
    leaf conventions t c = (Flat.leaf t.ownerType (c.behind conventions.ownerLead)).map .owner := by
  rw [leaf_of_routed h, ownerLeaf_eq, hb, if_neg Bool.false_ne_true, Flat.leaf,
    Condition.field_behind h]
  rfl

/-- Without an owner no condition holds that leads to one. -/
theorem value_of_no_owner {c : Condition} {name : String} {a : α} {l : OwnedTest}
    (h : Routed conventions.ownerLead c.field name) (hb : Text.allBlank name.toList = false)
    (hl : leaf conventions t c = .ok l) (ha : t.owner a = none) :
    (target conventions t).value a c = .ok false := by
  rw [Target.value_of_leaf _ hl]
  rw [leaf_eq_behind h hb] at hl
  obtain ⟨test, -, rfl⟩ := exists_of_map_eq_ok hl
  show OwnedTest.evaluate t a (.owner test) = .ok false
  rw [OwnedTest.evaluate, ha]

theorem answers_of_no_owner {p : Predicate α} {a : α} (hv : r.Valid)
    (hr : ∀ d ∈ r.subrules, ∀ c ∈ d.conditions, ∃ name,
      Routed conventions.ownerLead c.field name ∧ Text.allBlank name.toList = false)
    (hp : compile conventions t r = .ok p) (ha : t.owner a = none) :
    Answers (p.evaluate a) (r.Holds fun _ => False) := by
  rw [compile_eq_target] at hp
  obtain ⟨haccepted, rfl⟩ := (target conventions t).of_compile_eq_ok hv hp
  refine Rule.outcome_answers hv fun d hd c hc => ?_
  obtain ⟨name, h, hb⟩ := hr d hd c hc
  obtain ⟨l, hl⟩ := (haccepted d hd).1 c hc
  exact ⟨false, value_of_no_owner h hb hl ha, by simp⟩

end Owned

/-- **Compiling over related records extends compiling over plain ones.** A valid rule none of whose
fields leads on compiles as it does over the records themselves. One whose fields all lead on to the
owner compiles with the errors of the rule without the leading text over owners; it gives an
attribute the answer of its owner, and where there is no owner the meaning of the rule with every
condition false. -/
theorem compiled_by_route {r : Rule} (hv : r.Valid) :
    (∀ {α : Type} (conventions : Conventions) (t : EntityType α),
      (∀ d ∈ r.subrules, ∀ c ∈ d.conditions,
        ∀ key, ¬Routed conventions.attributeLead c.field key) →
      Entities.compile conventions t r = Flat.compile t.toRecordType r) ∧
    (∀ {α β : Type} (conventions : Conventions) (t : AttributeType α β),
      (∀ d ∈ r.subrules, ∀ c ∈ d.conditions, ∀ name, ¬Routed conventions.ownerLead c.field name) →
      Owned.compile conventions t r = Flat.compile t.toRecordType r) ∧
    (∀ {α β : Type} (conventions : Conventions) (t : AttributeType α β),
      (∀ d ∈ r.subrules, ∀ c ∈ d.conditions, ∃ name,
        Routed conventions.ownerLead c.field name ∧ Text.allBlank name.toList = false) →
      (∀ e, Owned.compile conventions t r = .error e ↔
        Flat.compile t.ownerType (r.behind conventions.ownerLead) = .error e) ∧
      ∀ p q, Owned.compile conventions t r = .ok p →
        Flat.compile t.ownerType (r.behind conventions.ownerLead) = .ok q →
        (∀ a l owner, t.link a = some l → l.owner = some owner →
          p.evaluate a = q.evaluate owner) ∧
        ∀ a, (t.link a = none ∨ ∃ l, t.link a = some l ∧ l.owner = none) →
          Answers (p.evaluate a) (r.Holds fun _ => False)) := by
  refine ⟨fun conventions t h => Entities.compile_of_unrouted hv h,
    fun conventions t h => Owned.compile_of_unrouted hv h, fun conventions t h => ?_⟩
  have hbehind : (r.behind conventions.ownerLead).Valid := by
    refine Rule.valid_mapConditions hv fun d hd c hc => ?_
    obtain ⟨name, hr, hb⟩ := h d hd c hc
    exact Condition.valid_behind ((Rule.valid_iff.mp hv d hd).2 c hc) hr hb
  have hleaf : ∀ d ∈ r.subrules, ∀ c ∈ d.conditions,
      Owned.leaf conventions t c =
        (Flat.leaf t.ownerType (c.behind conventions.ownerLead)).map .owner := fun d hd c hc => by
    obtain ⟨name, hr, hb⟩ := h d hd c hc
    exact Owned.leaf_eq_behind hr hb
  have howners : Flat.compile t.ownerType (r.behind conventions.ownerLead) =
      ((Flat.target t.ownerType).comap (Condition.behind conventions.ownerLead)).compile r := by
    rw [Flat.compile_eq_target, Rule.behind, Target.compile_mapConditions _ hv hbehind]
  rw [howners, Owned.compile_eq_target]
  refine ⟨Target.compile_eq_error_iff_of_map hv hleaf, fun p q hp hq => ⟨?_, ?_⟩⟩
  · intro a l owner hl howner
    refine Target.evaluate_of_map hv hp hq hleaf fun test => ?_
    show OwnedTest.evaluate t a (.owner test) = test.evaluate t.ownerType owner
    rw [OwnedTest.evaluate, AttributeType.owner, hl]
    simp only [howner]
  · intro a ha
    refine Owned.answers_of_no_owner hv h (by rw [Owned.compile_eq_target]; exact hp) ?_
    rw [AttributeType.owner]
    obtain hl | ⟨l, hl, howner⟩ := ha
    · rw [hl]
    · rw [hl]
      exact howner

/-- A negation over a disjunction, on two fields of the owner. -/
def ownerRule : Rule :=
  .node .not [] [.node .or [⟨"employee.city", .eq, .single (.text "Oslo")⟩,
    ⟨"employee.age", .gte, .single (.number (.signed 18))⟩] []]

/-- Records that are nothing but the way to an owner. -/
def tenures : AttributeType (Option (OwnerLink Row)) Row where
  name := "tenure"
  schema := [⟨"employee.city", .text⟩, ⟨"employee.age", .number⟩]
  read := fun _ _ => .text "Oslo"
  ownerType := Row.type "employee" [⟨"city", .text⟩, ⟨"age", .number⟩]
  link := id

def tenureEntities : EntityType (Option (OwnerLink Row)) :=
  { tenures.toRecordType with links := fun _ => [] }

theorem compiled_by_route_ownerRule :
    ownerRule.Valid ∧
      (∃ p, Entities.compile .standard tenureEntities ownerRule = .ok p ∧
        Flat.compile tenures.toRecordType ownerRule = .ok p) ∧
      (∃ p, Owned.compile ⟨"metadata.", ""⟩ tenures ownerRule = .ok p ∧
        Flat.compile tenures.toRecordType ownerRule = .ok p) ∧
      ∃ p q, Owned.compile .standard tenures ownerRule = .ok p ∧
        Flat.compile tenures.ownerType (ownerRule.behind "employee.") = .ok q ∧
        p.evaluate (some ⟨some [("age", .number (.signed 42))]⟩) =
          q.evaluate [("age", .number (.signed 42))] ∧
        Answers (p.evaluate (some ⟨none⟩)) (ownerRule.Holds fun _ => False) := by
  have hv : ownerRule.Valid := by decide
  have hunrouted : ∀ d ∈ ownerRule.subrules, ∀ c ∈ d.conditions,
      ∀ key, ¬Routed Conventions.standard.attributeLead c.field key := by
    simp only [← Conventions.route?_eq_none_iff]
    decide
  have hempty : ∀ d ∈ ownerRule.subrules, ∀ c ∈ d.conditions, ∀ name, ¬Routed "" c.field name :=
    fun d hd c hc name h => h.1 rfl
  have hrouted : ∀ d ∈ ownerRule.subrules, ∀ c ∈ d.conditions, ∃ name,
      Routed Conventions.standard.ownerLead c.field name ∧ Text.allBlank name.toList = false := by
    decide
  obtain ⟨hentities, hattributes, howners⟩ := compiled_by_route hv
  obtain ⟨-, hanswers⟩ := howners .standard tenures hrouted
  obtain ⟨howner, hnone⟩ := hanswers _ _ rfl rfl
  exact ⟨hv, ⟨_, rfl, (hentities .standard tenureEntities hunrouted).symm.trans rfl⟩,
    ⟨_, rfl, (hattributes ⟨"metadata.", ""⟩ tenures hempty).symm.trans rfl⟩,
    _, _, rfl, rfl, howner _ _ _ rfl rfl, hnone _ (.inr ⟨_, rfl, rfl⟩)⟩

end RecordRules
