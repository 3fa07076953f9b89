import Mathlib.Data.List.Perm.Basic
import RecordRules.Proofs.Compile.Meaning
import RecordRules.Proofs.Rule.Reordering

/-!
# RecordRules.Proofs.Compile.Reordering

Order does not change answers. A reordered rule compiles if the rule does, and where both answer,
also on an entity with its links and attributes in another order, the answers are the same. This
follows from what rules mean: both answers are the truth of the same proposition. Failures are met
in order, so reordering can bring them about or avoid them.
-/

namespace RecordRules

/-- The same fields, and the same links with the same attributes in some other order. -/
structure EntityType.Reordered {α : Type} (t : EntityType α) (a a' : α) : Prop where
  fields : ∀ field, t.read a field = t.read a' field
  links : ∃ ls, List.Forall₂ List.Perm (t.links a) ls ∧ ls.Perm (t.links a')

theorem EntityType.Reordered.mem_valuesOf_iff {α : Type} {t : EntityType α} {a a' : α}
    (h : t.Reordered a a') {key v : String} : v ∈ t.valuesOf a key ↔ v ∈ t.valuesOf a' key := by
  obtain ⟨ls, hls, hperm⟩ := h.links
  have hflat : (t.links a).flatten.Perm (t.links a').flatten :=
    (List.Perm.flatten_congr hls).trans hperm.flatten
  exact ((hflat.filter _).map _).mem_iff

theorem Entities.holdsFor_iff {α : Type} {conventions : Conventions} {t : EntityType α} {a a' : α}
    (h : t.Reordered a a') (c : Condition) :
    HoldsFor conventions t a c ↔ HoldsFor conventions t a' c := by
  simp only [HoldsFor, Flat.HoldsFor, h.mem_valuesOf_iff, h.fields]

/-- Answers that tell the same cannot differ. -/
theorem eq_of_agrees {ε : Type} {x x' : Except ε Bool} {p p' : Prop} (h : Agrees x p)
    (h' : Agrees x' p') (hp : p ↔ p') {b b' : Bool} (hb : x = .ok b) (hb' : x' = .ok b') : b = b' :=
  Bool.eq_iff_iff.mpr ((h b hb).trans (hp.trans (h' b' hb').symm))

theorem eq_ok_of_answers {ε : Type} {x x' : Except ε Bool} {p p' : Prop} (h : Answers x p)
    (h' : Answers x' p') (hp : p ↔ p') : ∃ b, x = .ok b ∧ x' = .ok b := by
  rw [← hp] at h'
  obtain rfl := h.unique h'
  obtain ⟨b, hb, -⟩ := h
  exact ⟨b, hb, hb⟩

theorem Target.compile_isOk_iff_of_reordered {α L : Type} (T : Target α L) {r r' : Rule}
    (hv : r.Valid) (h : r.Reordered r') :
    (∃ p, T.compile r = .ok p) ↔ ∃ p, T.compile r' = .ok p := by
  rw [T.exists_compile_eq_ok_iff hv, T.exists_compile_eq_ok_iff (h.valid_iff.mp hv), h.accepted_iff]

/-- **Order does not change answers.** Reordering a valid rule at any level changes neither whether
it compiles nor an answer. Only on entities can it bring about or avoid a failure. -/
theorem compiled_of_reordered {r r' : Rule} (hv : r.Valid) (h : r.Reordered r') :
    (∀ {α : Type} (t : RecordType α),
      ((∃ p, Flat.compile t r = .ok p) ↔ ∃ p, Flat.compile t r' = .ok p) ∧
      ∀ p p', Flat.compile t r = .ok p → Flat.compile t r' = .ok p' →
        ∀ a, ∃ b, p.evaluate a = .ok b ∧ p'.evaluate a = .ok b) ∧
    (∀ {α : Type} (conventions : Conventions) (t : EntityType α),
      ((∃ p, Entities.compile conventions t r = .ok p) ↔
        ∃ p, Entities.compile conventions t r' = .ok p) ∧
      ∀ p p', Entities.compile conventions t r = .ok p →
        Entities.compile conventions t r' = .ok p' →
        ∀ a a', t.Reordered a a' →
          ∀ b b', p.evaluate a = .ok b → p'.evaluate a' = .ok b' → b = b') ∧
    (∀ {α β : Type} (conventions : Conventions) (t : AttributeType α β),
      ((∃ p, Owned.compile conventions t r = .ok p) ↔
        ∃ p, Owned.compile conventions t r' = .ok p) ∧
      ∀ p p', Owned.compile conventions t r = .ok p → Owned.compile conventions t r' = .ok p' →
        ∀ a, ∃ b, p.evaluate a = .ok b ∧ p'.evaluate a = .ok b) := by
  have hv' : r'.Valid := h.valid_iff.mp hv
  refine ⟨fun t => ⟨?_, fun p p' hp hp' a => ?_⟩,
    fun conventions t => ⟨?_, fun p p' hp hp' a a' ha => ?_⟩,
    fun conventions t => ⟨?_, fun p p' hp hp' a => ?_⟩⟩
  · simp only [Flat.compile_eq_target]
    exact (Flat.target t).compile_isOk_iff_of_reordered hv h
  · exact eq_ok_of_answers (Flat.evaluate_answers hv hp a) (Flat.evaluate_answers hv' hp' a)
      h.holds_iff
  · simp only [Entities.compile_eq_target]
    exact (Entities.target conventions t).compile_isOk_iff_of_reordered hv h
  · intro b b' hb hb'
    have hholds : Entities.HoldsFor conventions t a = Entities.HoldsFor conventions t a' :=
      funext fun c => propext (Entities.holdsFor_iff ha c)
    -- what is taken to hold of failing conditions is the same for both records
    have hr := (Entities.evaluate_readAs hv hp a).agrees (Entities.HoldsFor conventions t a)
      fun c b hc => hc.agrees b rfl
    have hr' := (Entities.evaluate_readAs hv' hp' a').agrees (Entities.HoldsFor conventions t a')
      fun c b hc => hc.agrees b rfl
    exact eq_of_agrees hr hr' (hholds ▸ h.holds_iff) hb hb'
  · simp only [Owned.compile_eq_target]
    exact (Owned.target conventions t).compile_isOk_iff_of_reordered hv h
  · exact eq_ok_of_answers (Owned.evaluate_answers hv hp a) (Owned.evaluate_answers hv' hp' a)
      h.holds_iff

/-- Records that are lists of links; every field of theirs is 42. -/
def badges : EntityType (List (List StoredAttribute)) where
  name := "badge"
  schema := [⟨"age", .number⟩, ⟨"metadata.level", .number⟩]
  read := fun _ _ => .number (.signed 42)
  links := id

def levelCondition : Condition :=
  ⟨"metadata.level", .gt, .single (.number (.signed 5))⟩

def ageCondition : Condition :=
  ⟨"age", .eq, .single (.number (.signed 42))⟩

def badgeRule : Rule :=
  .node .and [] [.node .or [levelCondition, ageCondition] [], .node .or [] []]

/-- Behind the field that decides, a level that is no number is never met. -/
def reorderedBadgeRule : Rule :=
  .node .and [] [.node .or [] [], .node .or [ageCondition, levelCondition] []]

def badge : List (List StoredAttribute) :=
  [[⟨"level", "9"⟩, ⟨"level", "high"⟩], []]

def reorderedBadge : List (List StoredAttribute) :=
  [[], [⟨"level", "high"⟩, ⟨"level", "9"⟩]]

theorem compiled_of_reordered_badgeRule :
    badgeRule.Valid ∧ badgeRule.Reordered reorderedBadgeRule ∧
      (∃ p p', Flat.compile badges.toRecordType badgeRule = .ok p ∧
        Flat.compile badges.toRecordType reorderedBadgeRule = .ok p' ∧
        ∃ b, p.evaluate badge = .ok b ∧ p'.evaluate badge = .ok b) ∧
      badges.Reordered badge reorderedBadge ∧
      ∃ p p' b b', Entities.compile .standard badges badgeRule = .ok p ∧
        Entities.compile .standard badges reorderedBadgeRule = .ok p' ∧
        p.evaluate badge = .ok b ∧ p'.evaluate reorderedBadge = .ok b' ∧ b = b' := by
  have hv : badgeRule.Valid := by decide
  have hinner : Rule.Reordered (.node .or [levelCondition, ageCondition] [])
      (.node .or [ageCondition, levelCondition] []) := .node (.swap _ _ _) .nil .nil
  have hempty : Rule.Reordered (.node .or [] []) (.node .or [] []) := .node .nil .nil .nil
  have h : badgeRule.Reordered reorderedBadgeRule :=
    .node .nil (.cons hinner (.cons hempty .nil)) (.swap _ _ _)
  have ha : badges.Reordered badge reorderedBadge :=
    ⟨fun _ => rfl, _, .cons (.swap _ _ _) (.cons .nil .nil), .swap _ _ _⟩
  obtain ⟨-, hflat⟩ := (compiled_of_reordered hv h).1 badges.toRecordType
  obtain ⟨-, hentities⟩ := (compiled_of_reordered hv h).2.1 .standard badges
  exact ⟨hv, h, ⟨_, _, rfl, rfl, hflat _ _ rfl rfl badge⟩, ha,
    _, _, true, true, rfl, rfl, rfl, rfl, hentities _ _ rfl rfl _ _ ha true true rfl rfl⟩

end RecordRules
